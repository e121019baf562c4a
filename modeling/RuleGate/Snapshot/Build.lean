import RuleGate.Snapshot.Section
import RuleGate.World.Registry

/-!
# Building a snapshot

From the sections of a snapshot come a registry, the tables of the integrations and, if there is
an event, that event with its world and player. Names of resources take their normal form here.
Blocks are placed one after another.
-/

namespace RuleGate

structure Snapshot where
  registry : Registry
  integrations : IntegrationTables
  event : Option Event

namespace Snapshot

def StackEntry.build (s : StackEntry) : ItemStack where
  item := ResourceName.normalise s.item
  count := s.count
  damage := s.damage
  tag := s.tag
  energy := s.energy

def EntityEntry.build (e : EntityEntry) : BlockEntity where
  items := e.items.map fun entries => entries.map StackEntry.build
  energy := e.energy
  sides := e.sides

def PlacedBlock.state (p : PlacedBlock) : BlockState :=
  .of p.block p.properties

/-- A placed block without an entity leaves the entity at its place as it was. -/
def PlacedBlock.place (w : World) (p : PlacedBlock) : World :=
  let w := w.setBlock p.pos p.state
  match p.entity with
  | some e => w.setEntity p.pos (some e.build)
  | none => w

def RegistrySection.build (s : RegistrySection) : Registry :=
  .build s.items s.blocks s.biomeTypes

def normalised {α : Type} (t : Table Text α) : Table Text α :=
  Table.ofEntries (t.map fun entry => (ResourceName.normalise entry.1, entry.2))

/-- The world before any block is placed. -/
def WorldSection.ground (s : WorldSection) : World where
  dimension := ResourceName.normalise s.dimension
  dayTime := s.dayTime
  raining := s.raining
  thundering := s.thundering
  difficulty := s.difficulty
  spawn := s.spawn
  defaultBiome := ⟨ResourceName.normalise s.biome.id, s.biome.category⟩
  defaultLight := s.light
  defaultLocalDifficulty := .float s.localDifficulty
  covered := s.covered
  structures := normalised s.structures
  unloaded := s.unloaded

def WorldSection.build (s : WorldSection) : World :=
  s.blocks.foldl PlacedBlock.place s.ground

def PlayerSection.build (s : PlayerSection) : Player where
  name := s.name
  equipment := s.equipment.map fun entry => (entry.1, entry.2.build)
  lookingAt := s.lookingAt

def IntegrationSection.build (s : IntegrationSection) (default : List Capability) :
    IntegrationTables where
  capabilities := s.capabilities.getD default
  seasons := normalised s.seasons
  worldStates := s.worldStates
  playerStates := s.playerStates
  gameStages := s.gameStages
  cities := s.cities
  streets := s.streets
  spheres := s.spheres
  buildings := s.buildings
  baubles := s.baubles.map fun player =>
    (player.1, player.2.map fun entry => (entry.1, entry.2.build))
  biomeNames := s.biomeNames

/-- The event; world and player are looked at only if there is one. -/
def Sections.buildEvent (s : Sections) : Option Event :=
  s.event.map fun e => {
    world := some (s.world.getD {}).build
    pos := some e.pos
    player := s.player.map PlayerSection.build
    blockPos := e.blockPos }

def Sections.build (s : Sections) (default : List Capability) : Snapshot where
  registry := s.registry.build
  integrations := s.integrations.build default
  event := s.buildEvent

/-- Reads a snapshot; the default capabilities count where it lists none. -/
def ofJson (default : List Capability) (payload : Json) : Schema.Checked Snapshot :=
  (fun s => s.build default) <$> Sections.shape payload

end Snapshot
end RuleGate
