import RuleGate.Integration.Basic

/-!
# Attribute keys

The names that mean something in a rule, each with the kind of value it takes. Every key but
`blockoffset`, which only modifies `block`, stands for a check; the checks are run in the order of
the keys, the cheap ones first. Some keys need an integration.
-/

namespace RuleGate

inductive AttributeType
  | integer | float | boolean | string | json
  deriving DecidableEq, Repr

def AttributeType.Value : AttributeType → Type
  | integer => Int
  | float => Double
  | boolean => Bool
  | string => Text
  | json => Json

instance : Named AttributeType where
  all := [.integer, .float, .boolean, .string, .json]
  name
    | .integer => "integer"
    | .float => "float"
    | .boolean => "boolean"
    | .string => "string"
    | .json => "json"

inductive Key
  | random | dimension | dimensionMod | minTime | maxTime | minHeight | maxHeight | weather
  | category | difficulty | minSpawnDist | maxSpawnDist | minLight | maxLight | minDifficulty
  | maxDifficulty | seeSky | block | blockOffset | biome | biomeType | helmet | chestplate
  | leggings | boots | playerHeldItem | heldItem | offHandItem | bothHandsItem | structureName
  | state | playerState | summer | winter | spring | autumn | gameStage | inCity | inStreet
  | inSphere | inBuilding | amulet | ring | belt | trinket | head | body | charm
  deriving DecidableEq, Repr

namespace Key

def all : List Key := [
    .random, .dimension, .dimensionMod, .minTime, .maxTime, .minHeight, .maxHeight, .weather,
    .category, .difficulty, .minSpawnDist, .maxSpawnDist, .minLight, .maxLight, .minDifficulty,
    .maxDifficulty, .seeSky, .block, .blockOffset, .biome, .biomeType, .helmet, .chestplate,
    .leggings, .boots, .playerHeldItem, .heldItem, .offHandItem, .bothHandsItem, .structureName,
    .state, .playerState, .summer, .winter, .spring, .autumn, .gameStage, .inCity, .inStreet,
    .inSphere, .inBuilding, .amulet, .ring, .belt, .trinket, .head, .body, .charm]

def name : Key → Text
  | random => "random"
  | dimension => "dimension"
  | dimensionMod => "dimension_mod"
  | minTime => "mintime"
  | maxTime => "maxtime"
  | minHeight => "minheight"
  | maxHeight => "maxheight"
  | weather => "weather"
  | category => "category"
  | difficulty => "difficulty"
  | minSpawnDist => "minspawndist"
  | maxSpawnDist => "maxspawndist"
  | minLight => "minlight"
  | maxLight => "maxlight"
  | minDifficulty => "mindifficulty"
  | maxDifficulty => "maxdifficulty"
  | seeSky => "seesky"
  | block => "block"
  | blockOffset => "blockoffset"
  | biome => "biome"
  | biomeType => "biometype"
  | helmet => "helmet"
  | chestplate => "chestplate"
  | leggings => "leggings"
  | boots => "boots"
  | playerHeldItem => "playerhelditem"
  | heldItem => "helditem"
  | offHandItem => "offhanditem"
  | bothHandsItem => "bothhandsitem"
  | structureName => "structure"
  | state => "state"
  | playerState => "pstate"
  | summer => "summer"
  | winter => "winter"
  | spring => "spring"
  | autumn => "autumn"
  | gameStage => "gamestage"
  | inCity => "incity"
  | inStreet => "instreet"
  | inSphere => "insphere"
  | inBuilding => "inbuilding"
  | amulet => "amulet"
  | ring => "ring"
  | belt => "belt"
  | trinket => "trinket"
  | head => "head"
  | body => "body"
  | charm => "charm"

def type : Key → AttributeType
  | random | minSpawnDist | maxSpawnDist | minDifficulty | maxDifficulty => .float
  | minTime | maxTime | minHeight | maxHeight | minLight | maxLight => .integer
  | seeSky | summer | winter | spring | autumn | inCity | inStreet | inSphere | inBuilding =>
    .boolean
  | block | blockOffset | helmet | chestplate | leggings | boots | playerHeldItem | heldItem
  | offHandItem | bothHandsItem | amulet | ring | belt | trinket | head | body | charm => .json
  | dimension | dimensionMod | weather | category | difficulty | biome | biomeType
  | structureName | state | playerState | gameStage => .string

abbrev Value (k : Key) : Type := k.type.Value

instance : Named Key where
  all := all
  name := name

/-- The key that a name stands for, whatever its letter case and the blanks around it. -/
def ofName? (s : Text) : Option Key :=
  Named.ofLooseName? s

/-- The keys that stand for checks, in the order in which these are run. -/
def checkOrder : List Key :=
  all.filter (· ≠ .blockOffset)

def capability? : Key → Option Capability
  | state | playerState => some .worldState
  | summer | winter | spring | autumn => some .seasons
  | gameStage => some .gameStages
  | inCity | inStreet | inSphere | inBuilding => some .lostCities
  | amulet | ring | belt | trinket | head | body | charm => some .baubles
  | _ => none

end Key
end RuleGate
