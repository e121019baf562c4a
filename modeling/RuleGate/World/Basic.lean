import RuleGate.Named
import RuleGate.World.ItemStack
import RuleGate.World.Position

/-!
# Worlds

A world is what a rule can look at around an event: its dimension, time, weather and difficulty, a
few values with exceptions at single positions, blocks with their entities, structures, and the
chunks that are not loaded. Air is never stored: setting a block to air removes the entry.
-/

namespace RuleGate

inductive Difficulty
  | peaceful | easy | normal | hard
  deriving DecidableEq, Repr

inductive Direction
  | down | up | north | south | west | east
  deriving DecidableEq, Repr

instance : Named Difficulty where
  all := [.peaceful, .easy, .normal, .hard]
  name
    | .peaceful => "peaceful"
    | .easy => "easy"
    | .normal => "normal"
    | .hard => "hard"

instance : Named Direction where
  all := [.down, .up, .north, .south, .west, .east]
  name
    | .down => "down"
    | .up => "up"
    | .north => "north"
    | .south => "south"
    | .west => "west"
    | .east => "east"

structure Biome where
  id : Text
  category : Text := "none"
  deriving DecidableEq, Repr

/-- The inventory and energy store of a block; without a list of sides every side exposes them. -/
structure BlockEntity where
  items : Option (List ItemStack) := none
  energy : Option Int := none
  sides : Option (List Direction) := none

namespace BlockEntity

variable (e : BlockEntity) (side : Option Direction)

def exposes : Bool :=
  match side, e.sides with
  | some d, some sides => d ∈ sides
  | _, _ => true

def energyStored : Option Int :=
  if e.exposes side then e.energy else none

def itemSlots : Option (List ItemStack) :=
  if e.exposes side then e.items else none

end BlockEntity

structure World where
  dimension : Text := "minecraft:overworld"
  dayTime : Option Int := some 0
  raining : Bool := false
  thundering : Bool := false
  difficulty : Difficulty := .normal
  spawn : BlockPos := ⟨0, 64, 0⟩
  defaultBiome : Biome := ⟨"minecraft:plains", "plains"⟩
  defaultLight : Int := 15
  defaultLocalDifficulty : Number := .float (.ofRatio false 3 2)
  biomes : Table BlockPos Biome := []
  blocks : Table BlockPos BlockState := []
  entities : Table BlockPos BlockEntity := []
  light : Table BlockPos Int := []
  localDifficulty : Table BlockPos Number := []
  covered : List BlockPos := []
  structures : Table Text (List Chunk) := []
  unloaded : List Chunk := []

namespace World

variable (w : World) (pos : BlockPos)

def isLoaded (chunk : Chunk) : Bool :=
  chunk ∉ w.unloaded

def setBlock (state : BlockState) : World :=
  if state.block = air then { w with blocks := w.blocks.erase pos }
  else { w with blocks := w.blocks.insert pos state }

def setEntity (entity : Option BlockEntity) : World :=
  match entity with
  | some e => { w with entities := w.entities.insert pos e }
  | none => { w with entities := w.entities.erase pos }

def setBiome (biome : Biome) : World :=
  { w with biomes := w.biomes.insert pos biome }

def setLight (light : Int) : World :=
  { w with light := w.light.insert pos light }

def setLocalDifficulty (difficulty : Number) : World :=
  { w with localDifficulty := w.localDifficulty.insert pos difficulty }

def cover : World :=
  { w with covered := pos :: w.covered }

def uncover : World :=
  { w with covered := w.covered.filter (· ≠ pos) }

def unload (chunk : Chunk) : World :=
  { w with unloaded := chunk :: w.unloaded }

def load (chunk : Chunk) : World :=
  { w with unloaded := w.unloaded.filter (· ≠ chunk) }

def blockAt : BlockState :=
  (w.blocks.get? pos).getD .airState

def entityAt : Option BlockEntity :=
  w.entities.get? pos

def biomeAt : Biome :=
  (w.biomes.get? pos).getD w.defaultBiome

def lightAt : Int :=
  (w.light.get? pos).getD w.defaultLight

def localDifficultyAt : Number :=
  (w.localDifficulty.get? pos).getD w.defaultLocalDifficulty

def seesSky : Bool :=
  pos ∉ w.covered

def inStructure (name : Text) : Bool :=
  match w.structures.get? (ResourceName.normalise name) with
  | some chunks => pos.chunk ∈ chunks
  | none => false

end World
end RuleGate
