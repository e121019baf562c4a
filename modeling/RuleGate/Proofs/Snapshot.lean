import RuleGate.Proofs.Schema
import RuleGate.Proofs.Snapshot.Placement

/-!
# Where the stacks of a snapshot come from

Every stack that a snapshot has at hand, in the equipment of the player, in a block or among the
baubles, has been read from some part of the payload, and so has its tag. A place without a stack
is empty and has no tag.
-/

namespace RuleGate

open Json (Within)
open Schema

/-- The tag of a stack, if it has one, stands within a value. -/
def ItemStack.TagWithin (v : Json) (s : ItemStack) : Prop :=
  ∀ tag, s.tag = some tag → Within (.obj tag) v

theorem ItemStack.tagWithin_empty (v : Json) : ItemStack.empty.TagWithin v := by
  intro tag htag
  cases htag

namespace Snapshot

theorem compound_eq_valid {v : Json} {fields : Fields} (h : compound v = .valid fields) :
    v = .obj fields := by
  unfold compound at h
  split at h <;> cases h
  rfl

theorem StackEntry.tagWithin_build {v : Json} {s : StackEntry}
    (h : ReadFrom StackEntry.shape v s) : s.build.TagWithin v := by
  intro fields htag
  have hfield := Form.readFrom_strict "tag" tag none (nullable compound) h
  obtain ⟨w, hw, hcompound⟩ := readFrom_of_eq_some hfield htag
  obtain rfl := compound_eq_valid hcompound
  exact hw

theorem EntityEntry.tagWithin_build {v : Json} {e : EntityEntry}
    (h : ReadFrom EntityEntry.shape v e) {stored : List ItemStack}
    (hstacks : e.build.items = some stored) {s : ItemStack} (hs : s ∈ stored) : s.TagWithin v := by
  have hfield := Form.readFrom_strict "items" items none (nullable (listOf StackEntry.shape)) h
  obtain ⟨entries, hitems, rfl⟩ := Option.map_eq_some_iff.1 hstacks
  obtain ⟨entry, hentry, rfl⟩ := List.mem_map.1 hs
  have hread : ReadFrom (listOf StackEntry.shape) v entries := readFrom_of_eq_some hfield hitems
  exact StackEntry.tagWithin_build (readFrom_of_listOf hread hentry)

theorem PlacedBlock.readFrom_entity {v : Json} {p : PlacedBlock}
    (h : ReadFrom PlacedBlock.shape v p) {e : EntityEntry} (he : p.entity = some e) :
    ReadFrom EntityEntry.shape v e :=
  readFrom_of_eq_some (Form.readFrom_strict "entity" entity none (nullable EntityEntry.shape) h) he

theorem WorldSection.readFrom_blocks {v : Json} {s : WorldSection}
    (h : ReadFrom WorldSection.shape v s) {p : PlacedBlock} (hp : p ∈ s.blocks) :
    ReadFrom PlacedBlock.shape v p := by
  have hblocks := Form.readFrom_strict "blocks" blocks [] (listOf PlacedBlock.shape) h
  rcases hblocks with habsent | hread
  · rw [habsent] at hp
    cases hp
  · exact readFrom_of_listOf hread hp

theorem IntegrationSection.readFrom_baubles {v : Json} {s : IntegrationSection}
    (h : ReadFrom IntegrationSection.shape v s) {name : Text} {slots : Table Int StackEntry}
    (hslots : s.baubles.get? name = some slots) {k : Int} {entry : StackEntry}
    (hentry : slots.get? k = some entry) : ReadFrom StackEntry.shape v entry := by
  have hbaubles := Form.readFrom_strict "baubles" baubles []
      (namedTable (tableOf integerOfText StackEntry.shape)) h
  rcases hbaubles with habsent | hread
  · rw [habsent] at hslots
    cases hslots
  · exact readFrom_of_tableOf (readFrom_of_tableOf hread hslots) hentry

theorem PlayerSection.readFrom_equipment {v : Json} {s : PlayerSection}
    (h : ReadFrom PlayerSection.shape v s) {slot : EquipmentSlot} {entry : StackEntry}
    (hentry : s.equipment.get? slot = some entry) : ReadFrom StackEntry.shape v entry := by
  have hequipment := Form.readFrom_strict "equipment" equipment []
      (tableOf memberOfText StackEntry.shape) h
  rcases hequipment with habsent | hread
  · rw [habsent] at hentry
    cases hentry
  · exact readFrom_of_tableOf hread hentry

theorem WorldSection.tagWithin_build {v : Json} {s : WorldSection}
    (h : ∀ p ∈ s.blocks, ReadFrom PlacedBlock.shape v p) {pos : BlockPos} {entity : BlockEntity}
    (hentity : s.build.entityAt pos = some entity) {stored : List ItemStack}
    (hstacks : entity.items = some stored) {st : ItemStack} (hst : st ∈ stored) :
    st.TagWithin v := by
  rw [WorldSection.entityAt_build] at hentity
  obtain ⟨e, hlast, rfl⟩ := Option.map_eq_some_iff.1 hentity
  obtain ⟨p, hp, he⟩ := List.mem_filterMap.1 (List.mem_of_getLast? hlast)
  have hread : ReadFrom PlacedBlock.shape v p := h p (List.mem_of_mem_filter hp)
  exact EntityEntry.tagWithin_build (PlacedBlock.readFrom_entity hread he) hstacks hst

theorem tagWithin_getD {v : Json} {found : Option StackEntry}
    (h : ∀ entry, found = some entry → ReadFrom StackEntry.shape v entry) :
    ((found.map StackEntry.build).getD .empty).TagWithin v := by
  cases found with
  | none => exact ItemStack.tagWithin_empty v
  | some entry => exact StackEntry.tagWithin_build (h entry rfl)

theorem PlayerSection.tagWithin_build {v : Json} {s : PlayerSection}
    (h : ReadFrom PlayerSection.shape v s) (slot : EquipmentSlot) :
    (s.build.itemIn slot).TagWithin v := by
  have hget : s.build.equipment.get? slot = (s.equipment.get? slot).map StackEntry.build :=
    Table.get?_mapValues StackEntry.build s.equipment slot
  rw [Player.itemIn, hget]
  exact tagWithin_getD fun entry => PlayerSection.readFrom_equipment h

theorem IntegrationSection.tagWithin_build {v : Json} {s : IntegrationSection}
    (h : s = {} ∨ ReadFrom IntegrationSection.shape v s) (default : List Capability) (name : Text)
    (k : Int) : ((Integrations.tables (s.build default)).baubleStack name k).TagWithin v := by
  have hslots : (s.build default).baubles.get? name =
      (s.baubles.get? name).map (Table.mapValues StackEntry.build) :=
    Table.get?_mapValues (Table.mapValues StackEntry.build) s.baubles name
  have hstack : (Integrations.tables (s.build default)).baubleStack name k =
      (((s.baubles.get? name).bind fun slots => slots.get? k).map
        StackEntry.build).getD .empty := by
    change (((s.build default).baubles.get? name).bind fun slots => slots.get? k).getD .empty = _
    rw [hslots]
    cases s.baubles.get? name with
    | none => rfl
    | some slots =>
      rw [Option.map_some, Option.bind_some, Option.bind_some, Table.get?_mapValues]
  rw [hstack]
  apply tagWithin_getD
  intro entry hentry
  obtain ⟨slots, hslots, hget⟩ := Option.bind_eq_some_iff.1 hentry
  rcases h with rfl | hread
  · cases hslots
  · exact IntegrationSection.readFrom_baubles hread hslots hget

/-- Whatever stacks an event and the integrations have, their tags stand within a value. -/
structure TagsWithin (v : Json) (i : Integrations) (e : Event) : Prop where
  held : ∀ p, e.player = some p → ∀ slot, (p.itemIn slot).TagWithin v
  stored : ∀ w, e.world = some w → ∀ pos entity, w.entityAt pos = some entity →
    ∀ stored, entity.items = some stored → ∀ s ∈ stored, s.TagWithin v
  worn : ∀ name k, (i.baubleStack name k).TagWithin v

theorem Sections.readFrom_world {v : Json} {s : Sections} (h : ReadFrom Sections.shape v s)
    {world : WorldSection} (hworld : s.world = some world) :
    ReadFrom WorldSection.shape v world :=
  readFrom_of_eq_some
    (Form.readFrom_strict "world" Sections.world none (nullable WorldSection.shape) h) hworld

theorem Sections.readFrom_player {v : Json} {s : Sections} (h : ReadFrom Sections.shape v s)
    {player : PlayerSection} (hplayer : s.player = some player) :
    ReadFrom PlayerSection.shape v player :=
  readFrom_of_eq_some
    (Form.readFrom_strict "player" Sections.player none (nullable PlayerSection.shape) h) hplayer

theorem Sections.readFrom_integrations {v : Json} {s : Sections}
    (h : ReadFrom Sections.shape v s) :
    s.integrations = {} ∨ ReadFrom IntegrationSection.shape v s.integrations :=
  Form.readFrom_strict "compat" integrations {} IntegrationSection.shape h

/-- The tags of a snapshot come from its payload. -/
theorem tagsWithin_of_ofJson {default : List Capability} {payload : Json} {s : Snapshot}
    (h : ofJson default payload = .valid s) {e : Event} (he : s.event = some e) :
    TagsWithin payload (.tables s.integrations) e := by
  obtain ⟨sections, hsections, rfl⟩ := Checked.map_eq_valid_iff.1 h
  have hread : ReadFrom Sections.shape payload sections := ⟨payload, .self, hsections⟩
  obtain ⟨event, _, rfl⟩ := Option.map_eq_some_iff.1 he
  refine ⟨?_, ?_, ?_⟩
  · intro p hp slot
    obtain ⟨player, hplayer, rfl⟩ := Option.map_eq_some_iff.1 hp
    exact PlayerSection.tagWithin_build (Sections.readFrom_player hread hplayer) slot
  · intro w hw pos entity hentity stored hstacks st hst
    obtain rfl := Option.some.inj hw
    refine WorldSection.tagWithin_build ?_ hentity hstacks hst
    intro p hp
    cases hworld : sections.world with
    | none =>
      rw [hworld] at hp
      cases hp
    | some world =>
      rw [hworld] at hp
      exact WorldSection.readFrom_blocks (Sections.readFrom_world hread hworld) hp
  · intro name k
    exact IntegrationSection.tagWithin_build (Sections.readFrom_integrations hread) default name k

end Snapshot
end RuleGate
