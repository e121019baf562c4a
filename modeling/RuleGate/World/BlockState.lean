import RuleGate.World.ResourceName

/-!
# Block states

A block state is a block with values for properties, in the order of their names. States made by
`of` and `assign` name no property twice, so they are equal when they agree on block and values.
-/

namespace RuleGate

def air : Text := "minecraft:air"

structure BlockState where
  block : Text
  properties : List (Text × Text) := []
  deriving DecidableEq, Repr

namespace BlockState

/-- Sets a value in a list ordered by names. -/
def assignIn (name value : Text) : List (Text × Text) → List (Text × Text)
  | [] => [(name, value)]
  | (n, v) :: rest =>
    if name < n then (name, value) :: (n, v) :: rest
    else if name = n then (name, value) :: rest
    else (n, v) :: assignIn name value rest

def assign (s : BlockState) (name value : Text) : BlockState :=
  { s with properties := assignIn name value s.properties }

/-- The state of a block with the given values; of two for one property the later counts. -/
def of (block : Text) (properties : List (Text × Text)) : BlockState :=
  properties.foldl (fun s p => s.assign p.1 p.2) ⟨ResourceName.normalise block, []⟩

def get? (s : BlockState) (name : Text) : Option Text :=
  (s.properties.find? fun p => p.1 = name).map Prod.snd

def airState : BlockState := ⟨air, []⟩

def namespaceOf (s : BlockState) : Text :=
  ResourceName.namespaceOf s.block

end BlockState
end RuleGate
