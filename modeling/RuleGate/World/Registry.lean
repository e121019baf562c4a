import RuleGate.Table
import RuleGate.Text.Lowercase
import RuleGate.World.BlockState

/-!
# Registries

A registry knows the names of items and blocks, the properties of each block with their allowed
values, and the biomes of each biome type. The first allowed value of a property is its default.
Tables are keyed by normal forms; of two entries with one key the later counts.
-/

namespace RuleGate

structure Registry where
  items : List Text
  blocks : Table Text (Table Text (List Text))
  biomeTypes : Table Text (List Text)

namespace Registry

def build (items : List Text) (blocks : List (Text × Table Text (List Text)))
    (biomeTypes : List (Text × List Text)) : Registry where
  items := items.map ResourceName.normalise
  blocks := Table.ofEntries (blocks.map fun b => (ResourceName.normalise b.1, b.2))
  biomeTypes := Table.ofEntries
    (biomeTypes.map fun t => (Text.lower t.1, t.2.map ResourceName.normalise))

variable (r : Registry) (name : Text)

def hasBlock : Bool :=
  (r.blocks.get? (ResourceName.normalise name)).isSome

def hasItem : Bool :=
  ResourceName.normalise name ∈ r.items || r.hasBlock name

/-- The allowed values of each property; an unknown block has none. -/
def blockProperties : Table Text (List Text) :=
  (r.blocks.get? (ResourceName.normalise name)).getD []

/-- The state of a block in which each property has its default. -/
def defaultState? : Option BlockState :=
  (r.blocks.get? (ResourceName.normalise name)).map fun properties =>
    .of name (properties.filterMap fun p => p.2.head?.map fun v => (p.1, v))

def biomesOfType? : Option (List Text) :=
  r.biomeTypes.get? (Text.lower name)

end Registry
end RuleGate
