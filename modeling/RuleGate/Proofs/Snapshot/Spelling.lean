import RuleGate.Proofs.Schema.Editing
import RuleGate.Proofs.World.ResourceName
import RuleGate.Snapshot.Build

/-!
# Spelling names out

A name without its namespace is a shorthand for its normal form. Spelling a payload out puts the
normal form in place of every name of a resource. If no two names of one table become one, a valid
payload stays valid and its sections are those of before, spelled out (`Sections.tracks_spell`).
What is built from them is what was built before (`Sections.build_spelledOut`), save for the table
of the names that are shown for biomes: it is looked up by normal forms, but its keys are kept as
they were written.
-/

namespace RuleGate

open Json (Edit editText editItems editNames editValues editListed)
open Schema

def Table.spelledOut {α : Type} (t : Table Text α) : Table Text α :=
  t.mapKeys ResourceName.normalise

/-- No two names of the table have one normal form. -/
def Table.NamesApart {α : Type} (t : Table Text α) : Prop :=
  t.Apart ResourceName.normalise

def IntegrationTables.spelledOut (t : IntegrationTables) : IntegrationTables :=
  { t with biomeNames := t.biomeNames.spelledOut }

namespace Snapshot

/-- The snapshot with the names of biomes spelled out, which are all that is not in normal form. -/
def spelledOut (s : Snapshot) : Snapshot :=
  { s with integrations := s.integrations.spelledOut }

def spellName : Edit := editText ResourceName.normalise

def spellNames : Edit := editNames ResourceName.normalise

theorem tracks_spellName (s : Text) : Tracks text spellName s (ResourceName.normalise s) :=
  tracks_text _ s

theorem tracks_spellNames {α : Type} {shape : Shape α} {t : Table Text α} (h : t.NamesApart) :
    Tracks (namedTable shape) spellNames t t.spelledOut :=
  tracks_names h

theorem tracks_listOf_spellName (names : List Text) :
    Tracks (listOf text) (editItems spellName) names (names.map ResourceName.normalise) :=
  tracks_listOf fun name _ => tracks_spellName name

theorem tracks_namedTable_values {α : Type} {shape : Shape α} {edit : Edit} {f : α → α}
    (h : ∀ a, Tracks shape edit a (f a)) (t : Table Text α) :
    Tracks (namedTable shape) (editValues edit) t (t.mapValues f) :=
  tracks_values h t

theorem normalised_spelledOut {α : Type} (t : Table Text α) :
    normalised t.spelledOut = normalised t := by
  refine congrArg Table.ofEntries ?_
  simp only [Table.spelledOut, Table.mapKeys, List.map_map, Function.comp_def,
    ResourceName.normalise_normalise]

namespace StackEntry

def edits : Table Text Edit := [("item", spellName)]

def spell : Edit := editListed edits

def spelledOut (s : StackEntry) : StackEntry :=
  { s with item := ResourceName.normalise s.item }

theorem tracks_spell (s : StackEntry) : Tracks StackEntry.shape spell s s.spelledOut := by
  refine Form.tracks_strict fun fields => ?_
  revert s
  simp only [Form.forall_read_seq, Form.forall_read_map]
  intro item hitem count hcount damage hdamage tag htag energy henergy
  have hitem' := Form.read_required_of_tracks edits rfl (tracks_spellName item) hitem
  simp (disch := decide) only [Form.read_seq, Form.read_map, Form.read_optional_mapListed, hitem',
    hcount, hdamage, htag, henergy]
  rfl

theorem build_spelledOut (s : StackEntry) : s.spelledOut.build = s.build := by
  simp only [build, spelledOut, ResourceName.normalise_normalise]

end StackEntry

namespace EntityEntry

def edits : Table Text Edit := [("items", editItems StackEntry.spell)]

def spell : Edit := editListed edits

def spelledOut (e : EntityEntry) : EntityEntry :=
  { e with items := e.items.map fun entries => entries.map StackEntry.spelledOut }

theorem tracks_spell (e : EntityEntry) : Tracks EntityEntry.shape spell e e.spelledOut := by
  refine Form.tracks_strict fun fields => ?_
  revert e
  simp only [Form.forall_read_seq, Form.forall_read_map]
  intro items hitems energy henergy sides hsides
  have htracks : Tracks (nullable (listOf StackEntry.shape)) (editItems StackEntry.spell) items
      (items.map fun entries => entries.map StackEntry.spelledOut) :=
    tracks_nullable Json.editItems_eq_null_iff fun entries _ =>
      tracks_listOf fun s _ => s.tracks_spell
  have hitems' := Form.read_optional_of_tracks edits rfl (by rintro rfl; rfl) htracks hitems
  simp (disch := decide) only [Form.read_seq, Form.read_map, Form.read_optional_mapListed, hitems',
    henergy, hsides]
  rfl

theorem build_spelledOut (e : EntityEntry) : e.spelledOut.build = e.build := by
  simp only [build, spelledOut, Option.map_map, Function.comp_def, List.map_map,
    StackEntry.build_spelledOut]

end EntityEntry

namespace PlacedBlock

def edits : Table Text Edit := [("block", spellName), ("entity", EntityEntry.spell)]

def spell : Edit := editListed edits

def spelledOut (p : PlacedBlock) : PlacedBlock :=
  { p with
    block := ResourceName.normalise p.block
    entity := p.entity.map EntityEntry.spelledOut }

theorem tracks_spell (p : PlacedBlock) : Tracks PlacedBlock.shape spell p p.spelledOut := by
  refine Form.tracks_strict fun fields => ?_
  revert p
  simp only [Form.forall_read_seq, Form.forall_read_map]
  intro pos hpos block hblock properties hproperties entity hentity
  have hblock' := Form.read_required_of_tracks edits rfl (tracks_spellName block) hblock
  have htracks := tracks_nullable Json.editListed_eq_null_iff (o := entity)
    fun e _ => e.tracks_spell
  have hentity' := Form.read_optional_of_tracks edits rfl (by rintro rfl; rfl) htracks hentity
  simp (disch := decide) only [Form.read_seq, Form.read_map, Form.read_optional_mapListed,
    Form.read_required_mapListed, hpos, hblock', hproperties, hentity']
  rfl

theorem place_spelledOut (p : PlacedBlock) (w : World) : p.spelledOut.place w = p.place w := by
  have hstate : p.spelledOut.state = p.state := by
    simp only [state, spelledOut, BlockState.of, ResourceName.normalise_normalise]
  unfold place
  rw [hstate]
  cases he : p.entity with
  | none => simp only [spelledOut, he, Option.map_none]
  | some e => simp only [spelledOut, he, Option.map_some, e.build_spelledOut]

end PlacedBlock

namespace BiomeEntry

def edits : Table Text Edit := [("id", spellName)]

def spell : Edit := editListed edits

def spelledOut (b : BiomeEntry) : BiomeEntry :=
  { b with id := ResourceName.normalise b.id }

theorem tracks_spell (b : BiomeEntry) : Tracks BiomeEntry.shape spell b b.spelledOut := by
  refine Form.tracks_strict fun fields => ?_
  revert b
  simp only [Form.forall_read_seq, Form.forall_read_map]
  intro id hid category hcategory
  have hid' := Form.read_optional_of_tracks edits rfl (by rintro rfl; decide)
    (tracks_spellName id) hid
  simp (disch := decide) only [Form.read_seq, Form.read_map, Form.read_optional_mapListed, hid',
    hcategory]
  rfl

end BiomeEntry

namespace RegistrySection

def edits : Table Text Edit := [
    ("items", editItems spellName),
    ("blocks", spellNames),
    ("biome_types", editValues (editItems spellName))]

def spell : Edit := editListed edits

def spelledOut (s : RegistrySection) : RegistrySection where
  items := s.items.map ResourceName.normalise
  blocks := s.blocks.spelledOut
  biomeTypes := s.biomeTypes.mapValues fun names => names.map ResourceName.normalise

theorem tracks_spell {s : RegistrySection} (h : s.blocks.NamesApart) :
    Tracks RegistrySection.shape spell s s.spelledOut := by
  refine Form.tracks_strict fun fields hread => ?_
  revert h
  revert hread
  revert s
  simp only [Form.forall_read_seq, Form.forall_read_map]
  intro items hitems blocks hblocks biomeTypes hbiomeTypes hapart
  have hitems' := Form.read_optional_of_tracks edits rfl (by rintro rfl; rfl)
    (tracks_listOf_spellName items) hitems
  have hblocks' := Form.read_optional_of_tracks edits rfl (by rintro rfl; rfl)
    (tracks_spellNames hapart) hblocks
  have hbiomeTypes' := Form.read_optional_of_tracks edits rfl (by rintro rfl; rfl)
    (tracks_namedTable_values tracks_listOf_spellName biomeTypes) hbiomeTypes
  simp only [Form.read_seq, Form.read_map, hitems', hblocks', hbiomeTypes']
  rfl

theorem build_spelledOut (s : RegistrySection) : s.spelledOut.build = s.build := by
  have hblocks : normalised s.blocks.spelledOut = normalised s.blocks :=
    normalised_spelledOut s.blocks
  unfold normalised at hblocks
  simp only [build, Registry.build, spelledOut, hblocks, Table.mapValues, List.map_map,
    Function.comp_def, ResourceName.normalise_normalise]

end RegistrySection

namespace WorldSection

def edits : Table Text Edit := [
    ("dimension", spellName),
    ("biome", BiomeEntry.spell),
    ("blocks", editItems PlacedBlock.spell),
    ("structures", spellNames)]

def spell : Edit := editListed edits

def spelledOut (s : WorldSection) : WorldSection :=
  { s with
    dimension := ResourceName.normalise s.dimension
    biome := s.biome.spelledOut
    blocks := s.blocks.map PlacedBlock.spelledOut
    structures := s.structures.spelledOut }

theorem tracks_spell {s : WorldSection} (h : s.structures.NamesApart) :
    Tracks WorldSection.shape spell s s.spelledOut := by
  refine Form.tracks_strict fun fields hread => ?_
  revert h
  revert hread
  revert s
  simp only [Form.forall_read_seq, Form.forall_read_map]
  intro dimension hdimension dayTime hdayTime raining hraining thundering hthundering difficulty
    hdifficulty spawn hspawn biome hbiome light hlight localDifficulty hlocalDifficulty covered
    hcovered blocks hblocks unloaded hunloaded structures hstructures hapart
  have hdimension' := Form.read_optional_of_tracks edits rfl (by rintro rfl; decide)
    (tracks_spellName dimension) hdimension
  have hbiome' := Form.read_optional_of_tracks edits rfl (by rintro rfl; rfl)
    biome.tracks_spell hbiome
  have hblocks' := Form.read_optional_of_tracks edits rfl (by rintro rfl; rfl)
    (tracks_listOf fun p _ => p.tracks_spell) hblocks
  have hstructures' := Form.read_optional_of_tracks edits rfl (by rintro rfl; rfl)
    (tracks_spellNames hapart) hstructures
  simp (disch := decide) only [Form.read_seq, Form.read_map, Form.read_optional_mapListed,
    hdimension', hdayTime, hraining, hthundering, hdifficulty, hspawn, hbiome', hlight,
    hlocalDifficulty, hcovered, hblocks', hunloaded, hstructures']
  rfl

theorem build_spelledOut (s : WorldSection) : s.spelledOut.build = s.build := by
  have hground : s.spelledOut.ground = s.ground := by
    simp only [ground, spelledOut, BiomeEntry.spelledOut, ResourceName.normalise_normalise,
      normalised_spelledOut]
  have hplace : (fun w p => PlacedBlock.place w p.spelledOut) = PlacedBlock.place :=
    funext fun w => funext fun p => p.place_spelledOut w
  unfold build
  rw [hground, spelledOut, List.foldl_map, hplace]

end WorldSection

namespace PlayerSection

def edits : Table Text Edit := [("equipment", editValues StackEntry.spell)]

def spell : Edit := editListed edits

def spelledOut (s : PlayerSection) : PlayerSection :=
  { s with equipment := s.equipment.mapValues StackEntry.spelledOut }

theorem tracks_spell (s : PlayerSection) : Tracks PlayerSection.shape spell s s.spelledOut := by
  refine Form.tracks_strict fun fields => ?_
  revert s
  simp only [Form.forall_read_seq, Form.forall_read_map]
  intro name hname equipment hequipment lookingAt hlookingAt
  have hequipment' := Form.read_optional_of_tracks edits rfl (by rintro rfl; rfl)
    (tracks_values StackEntry.tracks_spell equipment) hequipment
  simp (disch := decide) only [Form.read_seq, Form.read_map, Form.read_optional_mapListed, hname,
    hequipment', hlookingAt]
  rfl

theorem build_spelledOut (s : PlayerSection) : s.spelledOut.build = s.build := by
  simp only [build, spelledOut, Table.mapValues, List.map_map, Function.comp_def,
    StackEntry.build_spelledOut]

end PlayerSection

namespace IntegrationSection

def edits : Table Text Edit := [
    ("seasons", spellNames),
    ("baubles", editValues (editValues StackEntry.spell)),
    ("biome_names", spellNames)]

def spell : Edit := editListed edits

def spelledOut (s : IntegrationSection) : IntegrationSection :=
  { s with
    seasons := s.seasons.spelledOut
    baubles := s.baubles.mapValues fun slots => slots.mapValues StackEntry.spelledOut
    biomeNames := s.biomeNames.spelledOut }

theorem tracks_spell {s : IntegrationSection} (hseasonsApart : s.seasons.NamesApart)
    (hbiomesApart : s.biomeNames.NamesApart) :
    Tracks IntegrationSection.shape spell s s.spelledOut := by
  refine Form.tracks_strict fun fields hread => ?_
  revert hseasonsApart hbiomesApart
  revert hread
  revert s
  simp only [Form.forall_read_seq, Form.forall_read_map]
  intro capabilities hcapabilities seasons hseasons worldStates hworldStates playerStates
    hplayerStates gameStages hgameStages cities hcities streets hstreets spheres hspheres buildings
    hbuildings baubles hbaubles biomeNames hbiomeNames hseasonsApart hbiomesApart
  have hseasons' := Form.read_optional_of_tracks edits rfl (by rintro rfl; rfl)
    (tracks_spellNames hseasonsApart) hseasons
  have hbaubles' := Form.read_optional_of_tracks edits rfl (by rintro rfl; rfl)
    (tracks_namedTable_values (tracks_values StackEntry.tracks_spell) baubles) hbaubles
  have hbiomeNames' := Form.read_optional_of_tracks edits rfl (by rintro rfl; rfl)
    (tracks_spellNames hbiomesApart) hbiomeNames
  simp (disch := decide) only [Form.read_seq, Form.read_map, Form.read_optional_mapListed,
    hcapabilities, hseasons', hworldStates, hplayerStates, hgameStages, hcities, hstreets,
    hspheres, hbuildings, hbaubles', hbiomeNames']
  rfl

/-- The names of biomes are the one table that is not brought into normal form. -/
theorem build_spelledOut (s : IntegrationSection) (default : List Capability) :
    s.spelledOut.build default = (s.build default).spelledOut := by
  simp only [build, spelledOut, IntegrationTables.spelledOut, normalised_spelledOut,
    Table.mapValues, List.map_map, Function.comp_def, StackEntry.build_spelledOut]

end IntegrationSection

namespace Sections

def edits : Table Text Edit := [
    ("registry", RegistrySection.spell),
    ("world", WorldSection.spell),
    ("player", PlayerSection.spell),
    ("compat", IntegrationSection.spell)]

def spell : Edit := editListed edits

def spelledOut (s : Sections) : Sections :=
  { s with
    registry := s.registry.spelledOut
    world := s.world.map WorldSection.spelledOut
    player := s.player.map PlayerSection.spelledOut
    integrations := s.integrations.spelledOut }

/-- No two names of one table have one normal form. -/
structure NamesApart (s : Sections) : Prop where
  blocks : s.registry.blocks.NamesApart
  structures : ∀ w, s.world = some w → w.structures.NamesApart
  seasons : s.integrations.seasons.NamesApart
  biomeNames : s.integrations.biomeNames.NamesApart

theorem tracks_spell {s : Sections} (h : s.NamesApart) :
    Tracks Sections.shape spell s s.spelledOut := by
  refine Form.tracks_strict fun fields hread => ?_
  revert h
  revert hread
  revert s
  simp only [Form.forall_read_seq, Form.forall_read_map]
  intro registry hregistry world hworld player hplayer event hevent integrations hintegrations
    hapart
  have hregistry' := Form.read_optional_of_tracks edits rfl (by rintro rfl; rfl)
    (RegistrySection.tracks_spell hapart.blocks) hregistry
  have hworld' := Form.read_optional_of_tracks edits rfl (by rintro rfl; rfl)
    (tracks_nullable Json.editListed_eq_null_iff fun w hw =>
      WorldSection.tracks_spell (hapart.structures w hw)) hworld
  have hplayer' := Form.read_optional_of_tracks edits rfl (by rintro rfl; rfl)
    (tracks_nullable Json.editListed_eq_null_iff fun p _ => p.tracks_spell) hplayer
  have hintegrations' := Form.read_optional_of_tracks edits rfl (by rintro rfl; rfl)
    (IntegrationSection.tracks_spell hapart.seasons hapart.biomeNames) hintegrations
  simp (disch := decide) only [Form.read_seq, Form.read_map, Form.read_optional_mapListed,
    hregistry', hworld', hplayer', hevent, hintegrations']
  rfl

theorem buildEvent_spelledOut (s : Sections) : s.spelledOut.buildEvent = s.buildEvent := by
  have hworld :
      ((s.world.map WorldSection.spelledOut).getD {}).build = (s.world.getD {}).build := by
    cases s.world with
    | none => rfl
    | some w => exact w.build_spelledOut
  simp only [buildEvent, spelledOut, hworld, Option.map_map, Function.comp_def,
    PlayerSection.build_spelledOut]

theorem build_spelledOut (s : Sections) (default : List Capability) :
    s.spelledOut.build default = (s.build default).spelledOut := by
  simp only [build, buildEvent_spelledOut]
  simp only [spelledOut, Snapshot.spelledOut, RegistrySection.build_spelledOut,
    IntegrationSection.build_spelledOut]

end Sections

/-- A payload that is spelled out is read as before, except for the names of biomes. -/
theorem ofJson_spell {payload : Json} {s : Sections} (h : Sections.shape payload = .valid s)
    (hapart : s.NamesApart) (default : List Capability) :
    ofJson default (Sections.spell payload) = .valid (s.build default).spelledOut := by
  rw [ofJson, Sections.tracks_spell hapart payload h, ← s.build_spelledOut]
  rfl

end Snapshot
end RuleGate
