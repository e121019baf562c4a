import RuleGate.Descriptor.Tag
import RuleGate.World.Registry
import RuleGate.World.ItemStack

/-!
# Item descriptors

An item is described by a name with optional parts, `name@damage/tag`, or by an object of which
every field must hold. Both compile to a test of stacks. In a list of descriptors those that fail
are left out with a warning each.
-/

namespace RuleGate

structure ItemDescriptor where
  empty : Option Bool
  item : Option Text
  damage : Json
  count : Json
  mod : Option Text
  nbt : Option (List TagDescriptor)
  energy : Json

/-- The fields of a described item that must hold; what is absent is not asked for. -/
structure ItemFields where
  empty : Option Bool := none
  item : Option Text := none
  damage : Option Expression := none
  count : Option Expression := none
  mod : Option Text := none
  tags : List TagTest := []
  energy : Option Expression := none

inductive ItemTest
  /-- One item, and where given its damage and its tag; nothing stands for no tag. -/
  | compact (item : Text) (damage : Option Int) (tag : Option Json)
  | fields (f : ItemFields)

namespace ItemDescriptor

open Schema

def form : Form ItemDescriptor :=
  mk <$> .optional "empty" none (nullable boolean)
    <*> .optional "item" none (nullable text)
    <*> .optional "damage" .null anything
    <*> .optional "count" .null anything
    <*> .optional "mod" none (nullable text)
    <*> .optional "nbt" none TagDescriptor.listShape
    <*> .optional "energy" .null anything

end ItemDescriptor

namespace ItemTest

variable (r : Registry)

def knownItem (name : Text) : Except Failure Text :=
  if r.hasItem name then .ok (ResourceName.normalise name)
  else .error (.compile (.unknownItem name))

/-- The damage after the mark; blanks alone mean zero. -/
def compactDamage (whole : Text) (cs : Text) : Except Failure Int :=
  if cs.all Text.isBlank then .ok 0
  else
    match Text.integer? cs with
    | some i => .ok i
    | none => .error (.compile (.badDamage whole))

/-- The tag after the mark; blanks alone mean that there is none. -/
def compactTag (whole : Text) (cs : Text) : Except Failure Json :=
  if cs.all Text.isBlank then .ok .null
  else
    match Json.read cs with
    | .ok v => .ok v
    | .error (.malformed _) => .error (.compile (.badTagData whole))
    | .error (.tooLong digits) => .error (.number (.tooLong digits))

/-- Whatever counts as nothing is no tag. -/
def presentTag (v : Json) : Json :=
  if v.isNothing then .null else v

def compileCompact (whole : Text) : Except Failure ItemTest := do
  let (named, tagText) := Text.splitAt '/' whole
  let (name, damageText) := Text.splitAt '@' named
  let item ← knownItem r name
  let damage ← Descriptor.onPart (compactDamage whole) damageText
  let tag ← Descriptor.onPart (compactTag whole) tagText
  return compact item damage (tag.map presentTag)

def compileObject (object : Fields) : Except Failure ItemTest := do
  let d ← Descriptor.ofObject .item ItemDescriptor.form object
  if d.item.isNone && d.empty.isNone then .error (.compile (.bareItem (.obj object)))
  else
    let item ← Descriptor.onPart (knownItem r) d.item
    let damage ← Expression.optional d.damage
    let count ← Expression.optional d.count
    let tags ← TagTest.compileAll (d.nbt.getD [])
    let energy ← Expression.optional d.energy
    return fields { empty := d.empty, item, damage, count, mod := d.mod, tags, energy }

def compile (raw : Json) : Except Failure ItemTest := do
  match ← Descriptor.decode raw with
  | .str name => compileCompact r name
  | .obj object => compileObject r object
  | _ => .error (.compile (.wrongKind .item raw))

/-- The tests of a list of descriptors, and the warnings about those that are left out. -/
structure Batch where
  tests : List ItemTest
  diagnostics : List Diagnostic

def Batch.append (a b : Batch) : Batch :=
  ⟨a.tests ++ b.tests, a.diagnostics ++ b.diagnostics⟩

def compileEntry (entry : Json) : Except NumberFault Batch :=
  match compile r entry with
  | .ok t => .ok ⟨[t], []⟩
  | .error (.compile e) => .ok ⟨[], [.skipped e]⟩
  | .error (.number f) => .error f

def compileEntries : List Json → Except NumberFault Batch
  | [] => .ok ⟨[], []⟩
  | entry :: rest => do
    let a ← compileEntry r entry
    let b ← compileEntries rest
    return a.append b

/-- A descriptor that is a list stands for its items. -/
def compileExpanded (raw : Json) : Except NumberFault Batch :=
  match Descriptor.decode raw with
  | .ok (.arr entries) => compileEntries r entries
  | .ok v => compileEntry r v
  | .error (.compile e) => .ok ⟨[], [.skipped e]⟩
  | .error (.number f) => .error f

def compileAll : List Json → Except NumberFault Batch
  | [] => .ok ⟨[], []⟩
  | raw :: rest => do
    let a ← compileExpanded r raw
    let b ← compileAll rest
    return a.append b

end ItemTest

namespace ItemFields

variable (f : ItemFields) (s : ItemStack)

def wanted {α : Type} (test : α → Bool) : Option α → Bool
  | none => true
  | some a => test a

/-- All that does not look into the tag, but for the energy. -/
def plainHold : Bool :=
  wanted (s.isEmpty = ·) f.empty && wanted (s.item = ·) f.item &&
  wanted (Expression.holds s.damage) f.damage && wanted (Expression.holds s.count) f.count &&
  wanted (s.namespaceOf = ·) f.mod

def energyHolds : Bool :=
  wanted (Expression.holds (s.energy.getD 0)) f.energy

def holds : Except NumberFault Bool := do
  if !f.plainHold s then return false
  else
    let tagged ← TagTest.allHold (s.tag.getD []) f.tags
    return tagged && f.energyHolds s

end ItemFields

namespace ItemTest

/-- The tag of a stack as a value; none and an empty one are both null. -/
def tagOf (s : ItemStack) : Json :=
  match s.tag with
  | none | some [] => .null
  | some tag => .obj tag

def holds (s : ItemStack) : ItemTest → Except NumberFault Bool
  | compact item damage tag =>
    .ok (s.item = item && ItemFields.wanted (s.damage = ·) damage &&
      ItemFields.wanted (Json.same (tagOf s)) tag)
  | fields f => f.holds s

/-- An empty stack passes no test. -/
def anyHolds (tests : List ItemTest) (s : ItemStack) : Except NumberFault Bool :=
  if s.isEmpty then .ok false else tests.anyM (holds s)

end ItemTest
end RuleGate
