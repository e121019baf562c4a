import RuleGate.Main
import RuleGate.Proofs.Command
import RuleGate.Proofs.Command.Rules
import RuleGate.Proofs.Descriptor.Batch
import RuleGate.Proofs.Descriptor.Compact
import RuleGate.Proofs.Descriptor.Contents
import RuleGate.Proofs.Descriptor.ItemMeaning
import RuleGate.Proofs.Descriptor.Literals
import RuleGate.Proofs.Descriptor.Names
import RuleGate.Proofs.Descriptor.Properties
import RuleGate.Proofs.Descriptor.Settled
import RuleGate.Proofs.Descriptor.Single
import RuleGate.Proofs.Descriptor.Skipped
import RuleGate.Proofs.Descriptor.TagMeaning
import RuleGate.Proofs.Descriptor.Tags
import RuleGate.Proofs.Descriptor.Units
import RuleGate.Proofs.Document
import RuleGate.Proofs.Json.Equality
import RuleGate.Proofs.Json.Order
import RuleGate.Proofs.Json.Trailing
import RuleGate.Proofs.Rule.Absence
import RuleGate.Proofs.Rule.Alternatives
import RuleGate.Proofs.Rule.Answers
import RuleGate.Proofs.Rule.Described
import RuleGate.Proofs.Rule.Draws
import RuleGate.Proofs.Rule.Expression
import RuleGate.Proofs.Rule.Faults
import RuleGate.Proofs.Rule.Gating
import RuleGate.Proofs.Rule.Interchange
import RuleGate.Proofs.Rule.Isolation
import RuleGate.Proofs.Rule.Locality
import RuleGate.Proofs.Rule.Offset
import RuleGate.Proofs.Rule.Omission
import RuleGate.Proofs.Rule.Shorthand
import RuleGate.Proofs.Rule.Slots
import RuleGate.Proofs.Rule.Store
import RuleGate.Proofs.Rule.Translation
import RuleGate.Proofs.Schema
import RuleGate.Proofs.Schema.Editing
import RuleGate.Proofs.Snapshot
import RuleGate.Proofs.Snapshot.Lookup
import RuleGate.Proofs.Snapshot.Placement
import RuleGate.Proofs.Snapshot.Spelling
import RuleGate.Proofs.Text.Integer
import RuleGate.Proofs.World.BlockState
