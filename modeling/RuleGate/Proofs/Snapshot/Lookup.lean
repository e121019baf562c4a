import RuleGate.Proofs.Schema
import RuleGate.Proofs.Snapshot.Placement
import RuleGate.Proofs.World.BlockState

/-!
# Lookups in the tables of a snapshot

The tables of a snapshot are keyed by the normal forms of the names in its payload. Of the entries
whose names have one normal form the last is kept as it is, and the others are left out. So what is
found under a name, however spelled, is what that last entry has: the biomes of a type, the
properties of a block with their values, and the chunks of a structure (`Snapshot.ofJson_looksUp`).
The properties of one block are a table themselves, so none is declared twice
(`Snapshot.Sections.regular_build`).
-/

namespace RuleGate

open ResourceName (normalise)
open Table (LastUnder)
open Schema

namespace Registry

variable {items : List Text} {blocks : List (Text × Table Text (List Text))}
  {biomeTypes : List (Text × List Text)}

theorem biomesOfType?_build_eq_some_iff {type : Text} {ids : List Text} :
    (build items blocks biomeTypes).biomesOfType? type = some ids ↔
      ∃ biomes, LastUnder Text.lower biomeTypes type biomes ∧ biomes.map normalise = ids := by
  have htable : (build items blocks biomeTypes).biomeTypes = Table.mapValues
      (List.map normalise) (Table.ofEntries (Table.mapKeys Text.lower biomeTypes)) := by
    rw [← Table.ofEntries_mapValues, Table.mapValues, Table.mapKeys, List.map_map]
    rfl
  rw [biomesOfType?, htable, Table.get?_mapValues, Option.map_eq_some_iff]
  simp only [Table.get?_ofEntries_mapKeys_iff]

theorem get?_blockProperties_build_eq_some_iff {block name : Text} {values : List Text} :
    ((build items blocks biomeTypes).blockProperties block).get? name = some values ↔
      ∃ properties, LastUnder normalise blocks block properties ∧
        properties.get? name = some values := by
  have hblock {properties : Table Text (List Text)} :
      (build items blocks biomeTypes).blocks.get? (normalise block) = some properties ↔
        LastUnder normalise blocks block properties := Table.get?_ofEntries_mapKeys_iff
  simp only [← hblock, blockProperties]
  cases (build items blocks biomeTypes).blocks.get? (normalise block) <;> simp

end Registry

namespace Snapshot

theorem WorldSection.inStructure_build_iff {s : WorldSection} {name : Text} {pos : BlockPos} :
    s.build.inStructure pos name ↔
      ∃ chunks, LastUnder normalise s.structures name chunks ∧ pos.chunk ∈ chunks := by
  have hget {chunks : List Chunk} :
      s.build.structures.get? (normalise name) = some chunks ↔
        LastUnder normalise s.structures name chunks := by
    obtain ⟨blocks, entities, heq⟩ := s.exists_build_eq
    rw [heq]
    exact Table.get?_ofEntries_mapKeys_iff
  simp only [← hget, World.inStructure]
  cases s.build.structures.get? (normalise name) <;> simp

theorem RegistrySection.nodup_properties {v : Json} {s : RegistrySection}
    (h : ReadFrom RegistrySection.shape v s) {b : Text × Table Text (List Text)}
    (hb : b ∈ s.blocks) : (b.2.map Prod.fst).Nodup := by
  have hblocks := Form.readFrom_strict "blocks" blocks []
      (namedTable (namedTable (listOf text))) h
  rcases hblocks with habsent | hread
  · rw [habsent] at hb
    cases hb
  · have hget := (Table.get?_eq_some_iff_mem (nodup_of_tableOf hread)).2 hb
    exact nodup_of_tableOf (readFrom_of_tableOf hread hget)

theorem Sections.regular_build {payload : Json} {s : Sections}
    (h : Sections.shape payload = .valid s) : s.registry.build.Regular := by
  have hregistry := Form.readFrom_strict "registry" registry {} RegistrySection.shape
      ⟨payload, .self, h⟩
  refine Registry.regular_build fun b hb => ?_
  rcases hregistry with habsent | hread
  · rw [habsent] at hb
    cases hb
  · exact RegistrySection.nodup_properties hread hb

/-- What is looked up under a name is what the last of the entries with its normal form has. -/
structure LooksUp (s : Sections) (r : Registry) (w : World) : Prop where
  biomes : ∀ type id, (∃ ids, r.biomesOfType? type = some ids ∧ id ∈ ids) ↔
    ∃ biomes, LastUnder Text.lower s.registry.biomeTypes type biomes ∧
      ∃ b ∈ biomes, normalise b = id
  properties : ∀ block name values, (r.blockProperties block).get? name = some values ↔
    ∃ properties, LastUnder normalise s.registry.blocks block properties ∧
      properties.get? name = some values
  structures : ∀ name pos, w.inStructure pos name ↔
    ∃ chunks, LastUnder normalise (s.world.getD {}).structures name chunks ∧ pos.chunk ∈ chunks

theorem Sections.looksUp (s : Sections) : LooksUp s s.registry.build (s.world.getD {}).build where
  biomes type id := by
    simp only [RegistrySection.build, Registry.biomesOfType?_build_eq_some_iff]
    constructor
    · rintro ⟨_, ⟨biomes, hlast, rfl⟩, hid⟩
      exact ⟨biomes, hlast, List.mem_map.1 hid⟩
    · rintro ⟨biomes, hlast, hid⟩
      exact ⟨_, ⟨biomes, hlast, rfl⟩, List.mem_map.2 hid⟩
  properties _ _ _ := Registry.get?_blockProperties_build_eq_some_iff
  structures _ _ := WorldSection.inStructure_build_iff

/-- Of the entries whose names have one normal form all but the last are left out, and that one is
kept whole. -/
theorem ofJson_looksUp {payload : Json} {s : Sections} (h : Sections.shape payload = .valid s)
    (default : List Capability) {e : Event} (he : s.buildEvent = some e) :
    ofJson default payload = .valid (s.build default) ∧ (s.build default).event = some e ∧
      ∃ w, e.world = some w ∧ LooksUp s (s.build default).registry w := by
  obtain ⟨event, _, rfl⟩ := Option.map_eq_some_iff.1 he
  refine ⟨?_, he, _, rfl, s.looksUp⟩
  rw [ofJson, h]
  rfl

/-- A type, a block and a structure, each in two spellings. -/
def twiceSpelled : Json :=
  .obj [
    ("registry", .obj [
      ("biome_types", .obj [("FOREST", .arr [.str "plains"]), ("forest", .arr [.str "desert"])]),
      ("blocks", .obj [("furnace", .obj [("lit", .arr [.str "false", .str "true"])]),
        ("minecraft:furnace", .obj [])])]),
    ("event", .obj [("pos", .arr [.int 0, .int 0, .int 0])]),
    ("world", .obj [("structures", .obj [("village", .arr [.arr [.int 0, .int 0]]),
      (" village", .arr [.arr [.int 1, .int 1]])])])]

def twiceSpelledSections : Sections where
  registry := {
    blocks := [("furnace", [("lit", ["false", "true"])]), ("minecraft:furnace", [])]
    biomeTypes := [("FOREST", ["plains"]), ("forest", ["desert"])] }
  world := some { structures := [("village", [⟨0, 0⟩]), (" village", [⟨1, 1⟩])] }
  player := none
  event := some ⟨⟨0, 0, 0⟩, none⟩
  integrations := {}

def twiceSpelledEvent : Event where
  world := some { structures := [("minecraft:village", [⟨1, 1⟩])] }
  pos := some ⟨0, 0, 0⟩

theorem ofJson_looksUp_twiceSpelled :
    Sections.shape twiceSpelled = .valid twiceSpelledSections ∧
      twiceSpelledSections.buildEvent = some twiceSpelledEvent ∧
      ofJson [] twiceSpelled = .valid (twiceSpelledSections.build []) ∧
      (twiceSpelledSections.build []).event = some twiceSpelledEvent ∧
      ∃ w, twiceSpelledEvent.world = some w ∧
        LooksUp twiceSpelledSections (twiceSpelledSections.build []).registry w :=
  have hshape : Sections.shape twiceSpelled = .valid twiceSpelledSections := rfl
  have hevent : twiceSpelledSections.buildEvent = some twiceSpelledEvent := rfl
  ⟨hshape, hevent, ofJson_looksUp hshape [] hevent⟩

/-- Each of the three tables has an entry that is not found under its own name. -/
theorem first_spelling_lost :
    Sections.shape twiceSpelled = .valid twiceSpelledSections ∧
      twiceSpelledSections.buildEvent = some twiceSpelledEvent ∧
      (∃ entry ∈ twiceSpelledSections.registry.biomeTypes, ∃ b ∈ entry.2, ∀ ids,
        twiceSpelledSections.registry.build.biomesOfType? entry.1 = some ids →
          normalise b ∉ ids) ∧
      (∃ entry ∈ twiceSpelledSections.registry.blocks, ∃ p ∈ entry.2,
        (twiceSpelledSections.registry.build.blockProperties entry.1).get? p.1 ≠ some p.2) ∧
      ∃ w, twiceSpelledEvent.world = some w ∧
        ∃ entry ∈ (twiceSpelledSections.world.getD {}).structures, ∃ chunk ∈ entry.2,
          ∃ pos, pos.chunk = chunk ∧ w.inStructure pos entry.1 = false := by
  refine ⟨rfl, rfl, ⟨_, List.mem_cons_self, _, List.mem_cons_self, ?_⟩,
    ⟨_, List.mem_cons_self, _, List.mem_cons_self, ?_⟩,
    _, rfl, _, List.mem_cons_self, _, List.mem_cons_self, ⟨0, 0, 0⟩, rfl, rfl⟩
  · intro ids hids
    cases hids
    decide
  · exact nofun

end Snapshot
end RuleGate
