import RuleGate.Descriptor.Basic
import RuleGate.World.Event

/-!
# Block offsets

An offset moves the position at which a rule looks for its block: from the block of the event, or
from the one that the player looks at where there is one.
-/

namespace RuleGate

structure Offset where
  dx : Int
  dy : Int
  dz : Int
  look : Bool
  deriving DecidableEq, Repr

namespace Offset

open Schema

/-- The three distances; each is zero unless it is given. -/
def vector : Form (Bool → Offset) :=
  mk <$> .optional "x" 0 integer <*> .optional "y" 0 integer <*> .optional "z" 0 integer

def form : Form Offset :=
  (fun v look => v look) <$> .optional "offset" (mk 0 0 0) (Form.lax "OffsetVector" vector)
    <*> .optional "look" false boolean

def compile (raw : Json) : Except Failure Offset := do
  match ← Descriptor.decode raw with
  | .obj fields => Descriptor.ofObject .offset form fields
  | v => .error (.compile (.wrongKind .offset v))

def origin (o : Offset) (e : Event) : Option BlockPos :=
  match o.look, e.world, e.player with
  | true, some _, some p => p.lookingAt <|> e.targetPos
  | _, _, _ => e.targetPos

def resolve (o : Offset) (e : Event) : Option BlockPos :=
  (o.origin e).map fun p => p.offset o.dx o.dy o.dz

end Offset
end RuleGate
