import RuleGate.World.Event

/-!
# Optional integrations

Some keys look at other game extensions, each of which may or may not be installed. Without any
integration every question has a negative answer. Otherwise the answers come from tables, whether
or not the capability they belong to is listed: what is listed decides only which keys compile.
-/

namespace RuleGate

inductive Capability
  | seasons | worldState | gameStages | lostCities | baubles
  deriving DecidableEq, Repr

instance : Named Capability where
  all := [.seasons, .worldState, .gameStages, .lostCities, .baubles]
  name
    | .seasons => "seasons"
    | .worldState => "world_state"
    | .gameStages => "game_stages"
    | .lostCities => "lost_cities"
    | .baubles => "baubles"

def Capability.label : Capability → Text
  | seasons => "Serene Seasons"
  | worldState => "EnigmaScript"
  | gameStages => "Game Stages"
  | lostCities => "The Lost Cities"
  | baubles => "Baubles"

/-- The name of the question whether a capability is there. -/
def Capability.probe (c : Capability) : Text :=
  "has_" ++ Named.name c

inductive Season
  | spring | summer | autumn | winter
  deriving DecidableEq, Repr

instance : Named Season where
  all := [.spring, .summer, .autumn, .winter]
  name
    | .spring => "spring"
    | .summer => "summer"
    | .autumn => "autumn"
    | .winter => "winter"

inductive BaubleSlot
  | amulet | ring | belt | trinket | head | body | charm
  deriving DecidableEq, Repr

instance : Named BaubleSlot where
  all := [.amulet, .ring, .belt, .trinket, .head, .body, .charm]
  name
    | .amulet => "amulet"
    | .ring => "ring"
    | .belt => "belt"
    | .trinket => "trinket"
    | .head => "head"
    | .body => "body"
    | .charm => "charm"

/-- The places of a slot in the bauble inventory; a trinket goes anywhere. -/
def BaubleSlot.indices : BaubleSlot → List Int
  | amulet => [0]
  | ring => [1, 2]
  | belt => [3]
  | trinket => [0, 1, 2, 3, 4, 5, 6]
  | head => [4]
  | body => [5]
  | charm => [6]

/-- The kinds of place that a city generator lays out by chunks. -/
inductive CityPlace
  | city | street | sphere | building
  deriving DecidableEq, Repr

structure IntegrationTables where
  capabilities : List Capability := []
  seasons : Table Text Season := []
  worldStates : Table Text Text := []
  playerStates : Table Text (Table Text Text) := []
  gameStages : Table Text (List Text) := []
  cities : List Chunk := []
  streets : List Chunk := []
  spheres : List Chunk := []
  buildings : List Chunk := []
  baubles : Table Text (Table Int ItemStack) := []
  biomeNames : Table Text Text := []

inductive Integrations
  | absent
  | tables (t : IntegrationTables)

namespace IntegrationTables

def chunksOf (t : IntegrationTables) : CityPlace → List Chunk
  | .city => t.cities
  | .street => t.streets
  | .sphere => t.spheres
  | .building => t.buildings

variable (t : IntegrationTables)

def setSeason (dimension : Text) (season : Season) : IntegrationTables :=
  { t with seasons := t.seasons.insert dimension season }

def setState (name value : Text) : IntegrationTables :=
  { t with worldStates := t.worldStates.insert name value }

def setPlayerState (player name value : Text) : IntegrationTables :=
  let states := (t.playerStates.get? player).getD []
  { t with playerStates := t.playerStates.insert player (states.insert name value) }

def setStages (player : Text) (change : List Text → List Text) : IntegrationTables :=
  let stages := (t.gameStages.get? player).getD []
  { t with gameStages := t.gameStages.insert player (change stages) }

def addStage (player stage : Text) : IntegrationTables :=
  t.setStages player (stage :: ·)

def removeStage (player stage : Text) : IntegrationTables :=
  t.setStages player fun stages => stages.filter (· ≠ stage)

def setBauble (player : Text) (index : Int) (stack : ItemStack) : IntegrationTables :=
  let slots := (t.baubles.get? player).getD []
  { t with baubles := t.baubles.insert player (slots.insert index stack) }

end IntegrationTables

namespace Integrations

def update (f : IntegrationTables → IntegrationTables) : Integrations → Integrations
  | absent => absent
  | tables t => tables (f t)

def supports (c : Capability) : Integrations → Bool
  | absent => false
  | tables t => c ∈ t.capabilities

def isSeason (dimension : Text) (season : Season) : Integrations → Bool
  | absent => false
  | tables t => t.seasons.get? dimension = some season

def state? (name : Text) : Integrations → Option Text
  | absent => none
  | tables t => t.worldStates.get? name

def playerState? (player name : Text) : Integrations → Option Text
  | absent => none
  | tables t => (t.playerStates.get? player).bind fun states => states.get? name

def hasStage (player stage : Text) : Integrations → Bool
  | absent => false
  | tables t => stage ∈ (t.gameStages.get? player).getD []

/-- Whether the chunk of a position is of a kind; no position is of none. -/
def isAt (place : CityPlace) (pos : Option BlockPos) : Integrations → Bool
  | absent => false
  | tables t =>
    match pos with
    | some p => p.chunk ∈ t.chunksOf place
    | none => false

def baubleSlots (slot : BaubleSlot) : Integrations → List Int
  | absent => []
  | tables _ => slot.indices

def baubleStack (player : Text) (index : Int) : Integrations → ItemStack
  | absent => .empty
  | tables t => ((t.baubles.get? player).bind fun slots => slots.get? index).getD .empty

def biomeName? (biome : Biome) : Integrations → Option Text
  | absent => none
  | tables t => t.biomeNames.get? biome.id

end Integrations
end RuleGate
