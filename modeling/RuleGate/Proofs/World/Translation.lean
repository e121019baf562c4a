import RuleGate.Integration.Basic
import RuleGate.Proofs.Table

/-!
# Moving a world

A shift moves positions by whole chunks in the horizontal directions and by any distance upward, so
it moves chunks along. Moved by it, a world, an event and the tables of the integrations say of the
moved positions what they said of the old ones: each lookup has a lemma here, and later proofs
unfold no table.
-/

namespace RuleGate

/-- How far to move: so many chunks in both horizontal directions, and so many blocks upward. -/
structure Shift where
  chunksX : Int
  up : Int
  chunksZ : Int

namespace Chunk

def translate (s : Shift) (c : Chunk) : Chunk :=
  ⟨c.x + s.chunksX, c.z + s.chunksZ⟩

theorem translate_injective (s : Shift) : Function.Injective (translate s) := by
  rintro ⟨x, z⟩ ⟨x', z'⟩ h
  simp only [translate, Chunk.mk.injEq] at h ⊢
  omega

@[simp] theorem translate_mem_map (s : Shift) (c : Chunk) (chunks : List Chunk) :
    c.translate s ∈ chunks.map (translate s) ↔ c ∈ chunks :=
  List.mem_map_of_injective (translate_injective s)

end Chunk

namespace BlockPos

variable (s : Shift) (p q : BlockPos)

def translate : BlockPos :=
  ⟨p.x + 16 * s.chunksX, p.y + s.up, p.z + 16 * s.chunksZ⟩

theorem translate_injective : Function.Injective (translate s) := by
  rintro ⟨x, y, z⟩ ⟨x', y', z'⟩ h
  simp only [translate, BlockPos.mk.injEq] at h ⊢
  omega

@[simp] theorem translate_mem_map (ps : List BlockPos) :
    p.translate s ∈ ps.map (translate s) ↔ p ∈ ps :=
  List.mem_map_of_injective (translate_injective s)

/-- Sixteen blocks are one chunk, on either side of zero. -/
@[simp] theorem chunk_translate : (p.translate s).chunk = p.chunk.translate s := by
  simp only [chunk, translate, Chunk.translate, Chunk.mk.injEq]
  exact ⟨Int.add_mul_fdiv_left _ _ (by decide), Int.add_mul_fdiv_left _ _ (by decide)⟩

theorem offset_translate (dx dy dz : Int) :
    (p.translate s).offset dx dy dz = (p.offset dx dy dz).translate s := by
  simp only [offset, translate, BlockPos.mk.injEq]
  omega

@[simp] theorem distSqr_translate : (p.translate s).distSqr (q.translate s) = p.distSqr q := by
  simp only [distSqr, translate, Int.add_sub_add_right]

end BlockPos

namespace World

variable (s : Shift) (w : World) (p : BlockPos)

/-- The world with all that it has at single positions or in chunks somewhere else. -/
def translate : World :=
  { w with
    spawn := w.spawn.translate s
    biomes := w.biomes.mapKeys (.translate s)
    blocks := w.blocks.mapKeys (.translate s)
    entities := w.entities.mapKeys (.translate s)
    light := w.light.mapKeys (.translate s)
    localDifficulty := w.localDifficulty.mapKeys (.translate s)
    covered := w.covered.map (.translate s)
    structures := w.structures.mapValues fun chunks => chunks.map (.translate s)
    unloaded := w.unloaded.map (.translate s) }

@[simp] theorem dimension_translate : (w.translate s).dimension = w.dimension := rfl

@[simp] theorem spawn_translate : (w.translate s).spawn = w.spawn.translate s := rfl

@[simp] theorem isLoaded_translate (c : Chunk) :
    (w.translate s).isLoaded (c.translate s) = w.isLoaded c := by
  simp [isLoaded, translate]

@[simp] theorem blockAt_translate : (w.translate s).blockAt (p.translate s) = w.blockAt p := by
  simp only [blockAt, translate, Table.get?_mapKeys (BlockPos.translate_injective s)]

@[simp] theorem entityAt_translate :
    (w.translate s).entityAt (p.translate s) = w.entityAt p := by
  simp only [entityAt, translate, Table.get?_mapKeys (BlockPos.translate_injective s)]

@[simp] theorem biomeAt_translate : (w.translate s).biomeAt (p.translate s) = w.biomeAt p := by
  simp only [biomeAt, translate, Table.get?_mapKeys (BlockPos.translate_injective s)]

@[simp] theorem lightAt_translate : (w.translate s).lightAt (p.translate s) = w.lightAt p := by
  simp only [lightAt, translate, Table.get?_mapKeys (BlockPos.translate_injective s)]

@[simp] theorem localDifficultyAt_translate :
    (w.translate s).localDifficultyAt (p.translate s) = w.localDifficultyAt p := by
  simp only [localDifficultyAt, translate, Table.get?_mapKeys (BlockPos.translate_injective s)]

@[simp] theorem seesSky_translate : (w.translate s).seesSky (p.translate s) = w.seesSky p := by
  simp [seesSky, translate]

@[simp] theorem inStructure_translate (name : Text) :
    (w.translate s).inStructure (p.translate s) name = w.inStructure p name := by
  simp only [inStructure, translate, Table.get?_mapValues]
  cases w.structures.get? (ResourceName.normalise name) <;> simp

end World

def Player.translate (s : Shift) (p : Player) : Player :=
  { p with lookingAt := p.lookingAt.map (.translate s) }

namespace Event

variable (s : Shift) (e : Event)

/-- The event somewhere else, in a world that has been moved along. -/
def translate : Event where
  world := e.world.map (.translate s)
  pos := e.pos.map (.translate s)
  player := e.player.map (.translate s)
  blockPos := e.blockPos.map (.translate s)

@[simp] theorem world_translate : (e.translate s).world = e.world.map (.translate s) := rfl

@[simp] theorem pos_translate : (e.translate s).pos = e.pos.map (.translate s) := rfl

@[simp] theorem player_translate : (e.translate s).player = e.player.map (.translate s) := rfl

@[simp] theorem targetPos_translate :
    (e.translate s).targetPos = e.targetPos.map (.translate s) := by
  obtain ⟨_, pos, _, blockPos⟩ := e
  cases blockPos <;> rfl

theorem located_translate :
    (e.translate s).located = e.located.map fun p => (p.1.translate s, p.2.translate s) := by
  obtain ⟨world, pos, _, _⟩ := e
  cases world <;> cases pos <;> rfl

end Event

namespace IntegrationTables

def translate (s : Shift) (t : IntegrationTables) : IntegrationTables :=
  { t with
    cities := t.cities.map (.translate s)
    streets := t.streets.map (.translate s)
    spheres := t.spheres.map (.translate s)
    buildings := t.buildings.map (.translate s) }

theorem chunksOf_translate (s : Shift) (t : IntegrationTables) (place : CityPlace) :
    (t.translate s).chunksOf place = (t.chunksOf place).map (.translate s) := by
  cases place <;> rfl

end IntegrationTables

namespace Integrations

variable (s : Shift) (i : Integrations)

def translate : Integrations :=
  i.update (.translate s)

@[simp] theorem supports_translate (c : Capability) :
    (i.translate s).supports c = i.supports c := by
  cases i <;> rfl

@[simp] theorem isSeason_translate (dimension : Text) (season : Season) :
    (i.translate s).isSeason dimension season = i.isSeason dimension season := by
  cases i <;> rfl

@[simp] theorem state?_translate (name : Text) : (i.translate s).state? name = i.state? name := by
  cases i <;> rfl

@[simp] theorem playerState?_translate (player name : Text) :
    (i.translate s).playerState? player name = i.playerState? player name := by
  cases i <;> rfl

@[simp] theorem hasStage_translate (player stage : Text) :
    (i.translate s).hasStage player stage = i.hasStage player stage := by
  cases i <;> rfl

@[simp] theorem baubleSlots_translate (slot : BaubleSlot) :
    (i.translate s).baubleSlots slot = i.baubleSlots slot := by
  cases i <;> rfl

@[simp] theorem baubleStack_translate (player : Text) (index : Int) :
    (i.translate s).baubleStack player index = i.baubleStack player index := by
  cases i <;> rfl

@[simp] theorem biomeName?_translate (biome : Biome) :
    (i.translate s).biomeName? biome = i.biomeName? biome := by
  cases i <;> rfl

@[simp] theorem isAt_translate (place : CityPlace) (pos : Option BlockPos) :
    (i.translate s).isAt place (pos.map (.translate s)) = i.isAt place pos := by
  cases i with
  | absent => rfl
  | tables t =>
    cases pos with
    | none => rfl
    | some p => simp [translate, update, isAt, IntegrationTables.chunksOf_translate]

end Integrations
end RuleGate
