import RuleGate.Descriptor.Block
import RuleGate.Descriptor.Offset

/-!
# Checks

A check is a question about one event, with everything that it was compiled from. Its answer
depends on the event, on the integrations and on one number drawn at random; a fact that the event
lacks satisfies no check, save that being nowhere is being in no city. A number in the tag of an
item may turn out to be no integer, and then there is no answer.
-/

namespace RuleGate

inductive Bound
  | atLeast | atMost
  deriving DecidableEq, Repr

def Bound.holds (value limit : Number) : Bound → Bool
  | atLeast => limit.le value
  | atMost => value.le limit

inductive Check
  | random (chance : Double)
  | dimension (allowed : List Text)
  | dimensionMod (allowed : List Text)
  | time (bound : Bound) (limit : Int)
  | height (bound : Bound) (limit : Int)
  | rain
  | thunder
  | category (allowed : List Text)
  | difficulty (d : Difficulty)
  | spawnDistance (bound : Bound) (squared : Double)
  | light (bound : Bound) (limit : Int)
  | localDifficulty (bound : Bound) (limit : Double)
  | seesSky (expected : Bool)
  | block (offset : Option Offset) (wanted : List (List BlockTest))
  /-- By its own name or by the one that an integration gives it. -/
  | biome (allowed : List Text)
  | biomeId (allowed : List Text)
  | inStructure (name : Text)
  | equipment (slots : List EquipmentSlot) (wanted : List ItemTest)
  | worldState (name value : Text)
  | playerState (name value : Text)
  | season (season : Season) (expected : Bool)
  | stage (name : Text)
  | cityPlace (place : CityPlace) (expected : Bool)
  | bauble (slot : BaubleSlot) (wanted : List ItemTest)

namespace Check

def dayLength : Int := 24000

def withWorld (e : Event) (test : World → Bool) : Bool :=
  match e.world with
  | some w => test w
  | none => false

def withPlace (e : Event) (test : World → BlockPos → Bool) : Bool :=
  match e.located with
  | some (w, p) => test w p
  | none => false

def withPlayer (e : Event) (test : Player → Bool) : Bool :=
  match e.player with
  | some p => test p
  | none => false

def timeHolds (bound : Bound) (limit : Int) (w : World) : Bool :=
  match w.dayTime with
  | some t => bound.holds (.int (t % dayLength)) (.int limit)
  | none => false

/-- A single name is compared; among several it is looked up. -/
def isOneOf (names : List Text) (name : Text) : Bool :=
  match names with
  | [only] => name = only
  | names => name ∈ names

def blockPlace (offset : Option Offset) (e : Event) : Option BlockPos :=
  match offset with
  | some o => o.resolve e
  | none => e.targetPos

/-- Whether the block is as one of the descriptions says; a single one is asked by itself. -/
def isOneOfBlocks (w : World) (pos : BlockPos) (wanted : List (List BlockTest)) :
    Except NumberFault Bool :=
  match wanted with
  | [only] => BlockTest.allHold w pos only
  | wanted => wanted.anyM (BlockTest.allHold w pos)

def blockHolds (offset : Option Offset) (wanted : List (List BlockTest)) (e : Event) :
    Except NumberFault Bool :=
  match e.world, blockPlace offset e with
  | some w, some pos => isOneOfBlocks w pos wanted
  | _, _ => .ok false

def biomeHolds (i : Integrations) (allowed : List Text) (w : World) (pos : BlockPos) : Bool :=
  let biome := w.biomeAt pos
  isOneOf allowed biome.id ||
    match i.biomeName? biome with
    | some name => isOneOf allowed name
    | none => false

def stacksHold (wanted : List ItemTest) (held : List ItemStack) : Except NumberFault Bool :=
  held.anyM (ItemTest.anyHolds wanted)

def equipmentHolds (slots : List EquipmentSlot) (wanted : List ItemTest) (e : Event) :
    Except NumberFault Bool :=
  match e.player with
  | some p => stacksHold wanted (slots.map p.itemIn)
  | none => .ok false

def baubleHolds (i : Integrations) (slot : BaubleSlot) (wanted : List ItemTest) (e : Event) :
    Except NumberFault Bool :=
  match e.player with
  | some p => stacksHold wanted ((i.baubleSlots slot).map fun k => i.baubleStack p.name k)
  | none => .ok false

def holds (i : Integrations) (e : Event) (draw : Number) : Check → Except NumberFault Bool
  | random chance => .ok (draw.lt (.float chance))
  | dimension allowed => .ok (withWorld e fun w => isOneOf allowed w.dimension)
  | dimensionMod allowed =>
    .ok (withWorld e fun w => isOneOf allowed (ResourceName.namespaceOf w.dimension))
  | time bound limit => .ok (withWorld e (timeHolds bound limit))
  | height bound limit =>
    .ok (match e.height with
      | some y => bound.holds (.int y) (.int limit)
      | none => false)
  | rain => .ok (withWorld e World.raining)
  | thunder => .ok (withWorld e World.thundering)
  | category allowed =>
    .ok (withPlace e fun w p => Text.lower (w.biomeAt p).category ∈ allowed)
  | difficulty d => .ok (withWorld e fun w => w.difficulty = d)
  | spawnDistance bound squared =>
    .ok (withPlace e fun w p => bound.holds (.int (p.distSqr w.spawn)) (.float squared))
  | light bound limit =>
    .ok (withPlace e fun w p => bound.holds (.int (w.lightAt p)) (.int limit))
  | localDifficulty bound limit =>
    .ok (withPlace e fun w p => bound.holds (w.localDifficultyAt p) (.float limit))
  | seesSky expected => .ok (withPlace e fun w p => w.seesSky p = expected)
  | block offset wanted => blockHolds offset wanted e
  | biome allowed => .ok (withPlace e (biomeHolds i allowed))
  | biomeId allowed => .ok (withPlace e fun w p => (w.biomeAt p).id ∈ allowed)
  | inStructure name => .ok (withPlace e fun w p => w.inStructure p name)
  | equipment slots wanted => equipmentHolds slots wanted e
  | worldState name value =>
    .ok (withWorld e fun _ => i.state? name = some value)
  | playerState name value =>
    .ok (withPlayer e fun p => i.playerState? p.name name = some value)
  | season wanted expected =>
    .ok (withWorld e fun w => i.isSeason w.dimension wanted = expected)
  | stage name => .ok (withPlayer e fun p => i.hasStage p.name name)
  | cityPlace place expected => .ok (i.isAt place e.pos = expected)
  | bauble slot wanted => baubleHolds i slot wanted e

/-- Whether a check uses up the number drawn. -/
def draws : Check → Bool
  | random _ => true
  | _ => false

end Check
end RuleGate
