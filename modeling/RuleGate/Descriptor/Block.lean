import RuleGate.Descriptor.Item
import RuleGate.World.Basic

/-!
# Block descriptors

A block is described by its name or by an object. The object compiles to one test for each field
that is present; all must hold, and none is asked while the chunk is not loaded. Named properties
narrow the default state of the block; names and values that the registry does not know are passed
over.
-/

namespace RuleGate

structure BlockProperty where
  name : Text
  value : Text

structure BlockDescriptor where
  block : Option Text
  properties : Option (List BlockProperty)
  mod : Option Text
  energy : Json
  side : Option Text
  contains : Json

inductive BlockTest
  | block (name : Text)
  | state (s : BlockState)
  | mod (name : Text)
  | energy (e : Expression) (side : Option Direction)
  | contents (items : List ItemTest) (side : Option Direction)

open Schema

/-- Truth values and numbers are written out. -/
def BlockProperty.valueShape : Shape Text
  | .bool b => .valid (if b then "true" else "false")
  | .int i => .valid (Json.shown (.int i))
  | .float d => .valid (Json.shown (.float d))
  | v => text v

def BlockProperty.shape : Shape BlockProperty :=
  Form.lax "PropertyDescriptor" (mk <$> .required "name" text <*> .required "value" valueShape)

def BlockDescriptor.form : Form BlockDescriptor :=
  mk <$> .optional "block" none (nullable text)
    <*> .optional "properties" none (nullable (listOf BlockProperty.shape))
    <*> .optional "mod" none (nullable text)
    <*> .optional "energy" .null anything
    <*> .optional "side" none (nullable text)
    <*> .optional "contains" .null anything

namespace BlockTest

variable (r : Registry)

def knownBlock (name : Text) : Except Failure Text :=
  if r.hasBlock name then .ok (ResourceName.normalise name)
  else .error (.compile (.unknownBlock name))

/-- Sets a property if the block has it and allows the value. -/
def narrowBy (block : Text) (s : BlockState) (p : BlockProperty) : BlockState :=
  match (r.blockProperties block).get? p.name with
  | some values => if p.value ∈ values then s.assign p.name p.value else s
  | none => s

def narrowed (block : Text) (properties : List BlockProperty) : BlockState :=
  properties.foldl (narrowBy r block) ((r.defaultState? block).getD ⟨block, []⟩)

def identity (properties : List BlockProperty) (name : Text) : Except Failure BlockTest := do
  let block ← knownBlock r name
  return if properties.isEmpty then .block block else .state (narrowed r block properties)

def sideOf (name : Text) : Except Failure Direction :=
  match Named.ofLooseName? name with
  | some d => .ok d
  | none => .error (.compile (.unknownSide name))

/-- A list stands for its items, any other value for itself, and null for nothing. -/
def contentsOf? : Json → Option (List Json)
  | .null => none
  | .arr items => some items
  | v => some [v]

/-- The tests of a block, and the warnings about items that are left out. -/
structure Compiled where
  tests : List BlockTest
  diagnostics : List Diagnostic := []

def compileObject (object : Fields) : Except Failure Compiled := do
  let d ← Descriptor.ofObject .block BlockDescriptor.form object
  let identity ← Descriptor.onPart (identity r (d.properties.getD [])) d.block
  let side ← Descriptor.onPart sideOf d.side
  let energy ← Expression.optional d.energy
  let plain := identity.toList ++ (d.mod.map mod).toList ++
    (energy.map fun e => BlockTest.energy e side).toList
  match contentsOf? d.contains with
  | none => return ⟨plain, []⟩
  | some wanted =>
    let batch ← Failure.ofFault (ItemTest.compileAll r wanted)
    return ⟨plain ++ [contents batch.tests side], batch.diagnostics⟩

def compile (raw : Json) : Except Failure Compiled := do
  match ← Descriptor.decode raw with
  | .str name => (knownBlock r name).map fun block => ⟨[.block block], []⟩
  | .obj object => compileObject r object
  | _ => .error (.compile (.wrongKind .block raw))

variable (w : World) (pos : BlockPos)

def holds : BlockTest → Except NumberFault Bool
  | block name => .ok ((w.blockAt pos).block = name)
  | state s => .ok (w.blockAt pos = s)
  | mod name => .ok ((w.blockAt pos).namespaceOf = name)
  | energy e side =>
    .ok (e.holds (((w.entityAt pos).bind fun entity => entity.energyStored side).getD 0))
  | contents items side =>
    match (w.entityAt pos).bind fun entity => entity.itemSlots side with
    | some slots => slots.anyM (ItemTest.anyHolds items)
    | none => .ok false

/-- Nothing is asked about a chunk that is not loaded. -/
def allHold (tests : List BlockTest) : Except NumberFault Bool :=
  if w.isLoaded pos.chunk then tests.allM (holds w pos) else .ok false

end BlockTest
end RuleGate
