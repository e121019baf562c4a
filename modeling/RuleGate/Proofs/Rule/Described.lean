import RuleGate.Proofs.Descriptor.Properties
import RuleGate.Proofs.Rule.Interchange
import RuleGate.Proofs.Rule.Matching
import RuleGate.Proofs.Snapshot
import RuleGate.Proofs.Snapshot.Lookup

/-!
# Blocks described by their own properties

A description by name and properties asks for one state, in which every property that is not
mentioned has its default. A block is placed in the state of the properties that are given for it,
and those that are not given have no value there. So a block is as its own properties describe it
exactly if these are all that its block has, save properties without a value. A rule made of that
description compiles in any case (`Snapshot.isMatch_describing`).
-/

namespace RuleGate

open Schema

namespace BlockTest

/-- A block is described by its name and the values of some properties. -/
def describing (block : Text) (properties : List (Text × Text)) : Json :=
  .obj [("block", .str block), ("properties", .arr (properties.map fun p => entryOf p.1 p.2))]

def entriesOf (properties : List (Text × Text)) : List BlockProperty :=
  properties.map fun p => ⟨p.1, p.2⟩

variable {r : Registry} {block : Text} {properties : List (Text × Text)}

theorem items_entryOf (properties : List (Text × Text)) (n : Nat) :
    items BlockProperty.shape n (properties.map fun p => entryOf p.1 p.2) =
      .valid (entriesOf properties) := by
  induction properties generalizing n with
  | nil => rfl
  | cons p rest ih =>
    rw [List.map_cons, items, ih]
    rfl

theorem narrows_describing (block : Text) (properties : List (Text × Text)) :
    Narrows (describing block properties) block (entriesOf properties) := by
  have hproperties : (Form.optional "properties" none (nullable (listOf BlockProperty.shape))).read
      [("block", .str block), ("properties", .arr (properties.map fun p => entryOf p.1 p.2))] =
        .valid (some (entriesOf properties)) := by
    rw [Form.read_optional_of_eq_some rfl]
    exact Checked.under_eq_valid_iff.2 (congrArg (some <$> ·) (items_entryOf properties 0))
  refine ⟨_, rfl, ?_⟩
  simp only [BlockDescriptor.form, Form.read_seq, Form.read_map, hproperties]
  rfl

theorem lastAllowed?_entriesOf {name : Text} {values : List Text}
    (h : ∀ p ∈ properties, p.1 = name → p.2 ∈ values) :
    lastAllowed? (entriesOf properties) name values = Table.get? properties.reverse name := by
  induction properties using List.reverseRecOn with
  | nil => rfl
  | append_singleton rest p ih =>
    obtain ⟨hrest, hp⟩ := List.forall_mem_append.1 h
    have hlast := hp p (List.mem_singleton_self p)
    rw [entriesOf, List.map_append, List.map_singleton, lastAllowed?_append, ← entriesOf, ih hrest,
      lastAllowed?_singleton, List.reverse_append, List.reverse_singleton, List.singleton_append,
      Table.get?]
    by_cases hname : p.1 = name
    · rw [if_pos ⟨hname, hlast hname⟩, if_pos hname]
      rfl
    · rw [if_neg fun h => hname h.1, if_neg hname]
      rfl

/-- A property that is among those of the description is asked for as it is there, and every other
one by its default. -/
theorem wanted?_entriesOf (hallowed : ∀ p ∈ properties, Allowed r block ⟨p.1, p.2⟩) (name : Text) :
    wanted? r block (entriesOf properties) name = (Table.get? properties.reverse name).or
      (((r.blockProperties block).get? name).bind List.head?) := by
  unfold wanted?
  cases hvalues : (r.blockProperties block).get? name with
  | none =>
    have hnone : Table.get? properties.reverse name = none := by
      refine Table.get?_eq_none_of_notMem fun hmem => ?_
      obtain ⟨p, hp, rfl⟩ := List.mem_map.1 hmem
      obtain ⟨values, hsome, -⟩ := hallowed p (List.mem_reverse.1 hp)
      cases hvalues.symm.trans hsome
    rw [hnone]
    rfl
  | some values =>
    have hmem : ∀ p ∈ properties, p.1 = name → p.2 ∈ values := by
      rintro p hp rfl
      obtain ⟨values', hsome, hmem⟩ := hallowed p hp
      obtain rfl := Option.some.inj (hvalues.symm.trans hsome)
      exact hmem
    rw [Option.bind_some, Option.bind_some, lastAllowed?_entriesOf hmem]

/-- Every property of a block that has a value is among these. -/
def MentionsAll (r : Registry) (block : Text) (names : List Text) : Prop :=
  ∀ name values, (r.blockProperties block).get? name = some values → values ≠ [] → name ∈ names

/-- A state made of some properties is the one that they ask for if there are no others. -/
theorem narrowed_of_iff {block' : Text}
    (hblock : ResourceName.normalise block' = ResourceName.normalise block)
    (hallowed : ∀ p ∈ properties, Allowed r block ⟨p.1, p.2⟩) :
    Narrowed r block (entriesOf properties) (.of block' properties) ↔
      MentionsAll r block (properties.map Prod.fst) := by
  have hmem (name : Text) : Table.get? properties.reverse name = none ↔
      name ∉ properties.map Prod.fst := by
    rw [← Option.not_isSome_iff_eq_none, Table.isSome_get?_iff]
    simp [eq_comm]
  constructor
  · intro h name values hvalues hne
    have hget := h.get?_eq name
    rw [BlockState.get?_of, wanted?_entriesOf hallowed, hvalues, Option.bind_some] at hget
    by_contra hnot
    rw [(hmem name).2 hnot, Option.none_or, eq_comm, List.head?_eq_none_iff] at hget
    exact hne hget
  · intro h
    refine ⟨(BlockState.block_of _ _).trans hblock, BlockState.ordered_of _ _, fun name => ?_⟩
    rw [BlockState.get?_of, wanted?_entriesOf hallowed]
    cases hget : Table.get? properties.reverse name with
    | some value => rfl
    | none =>
      have hnot : name ∉ properties.map Prod.fst := (hmem name).1 hget
      rw [Option.none_or, eq_comm, Option.bind_eq_none_iff]
      intro values hvalues
      by_contra hhead
      exact hnot (h name values hvalues fun hnil => hhead (List.head?_eq_none_iff.2 hnil))

end BlockTest

namespace Rule

open RuleAttributes

variable (r : Registry) (i : Integrations)

theorem compile_block {raw : Json} (hraw : itemsOf raw = [raw]) {compiled : BlockTest.Compiled}
    (h : BlockTest.compile r raw = .ok compiled) :
    compile r i (ofFields [("block", raw)]).1 =
      .ok ([⟨.block, .block none [compiled.tests]⟩], compiled.diagnostics) := by
  have hblock : (ofFields [("block", raw)]).1.described .block = [raw] :=
    (described_ofField rfl rfl raw).trans hraw
  have hoffset : (ofFields [("block", raw)]).1.described .blockOffset = [] := by
    rw [described_ofFields rfl, List.flatMap_singleton]
    rfl
  rw [compile_ofField r i (nofun : Key.block ≠ .blockOffset) rfl, compileKey_block, hblock, hoffset]
  simp [Check.blocksAt, Check.offsetOf, Check.blocksOf, h, Outcome.ofResult, Except.map]

end Rule

namespace Snapshot

open ResourceName (normalise)

/-- A block that an event is about: the last one that is placed there, in a loaded chunk, with
properties of its own that are declared for it. -/
structure Presents (s : Sections) (e : Event) (block : Text) (p : PlacedBlock) : Prop where
  event : s.buildEvent = some e
  target : e.targetPos = some p.pos
  last : (placementsAt p.pos (s.world.getD {}).blocks).getLast? = some p
  known : s.registry.build.hasBlock block
  isOf : normalise p.block = normalise block
  nonempty : p.properties ≠ []
  allowed : ∀ q ∈ p.properties, BlockTest.Allowed s.registry.build block ⟨q.1, q.2⟩
  loaded : p.pos.chunk ∉ (s.world.getD {}).unloaded

theorem WorldSection.isLoaded_build (s : WorldSection) (chunk : Chunk) :
    s.build.isLoaded chunk ↔ chunk ∉ s.unloaded := by
  obtain ⟨blocks, entities, heq⟩ := s.exists_build_eq
  rw [heq]
  exact decide_eq_true_iff

variable {s : Sections} {e : Event} {block : Text} {p : PlacedBlock}

/-- Air is found without the properties it was placed with. -/
theorem found_eq_narrowed_iff (hr : s.registry.build.Regular) (h : Presents s e block p) :
    p.state.found = BlockTest.narrowed s.registry.build (normalise block)
        (BlockTest.entriesOf p.properties) ↔
      normalise block ≠ air ∧
        BlockTest.MentionsAll s.registry.build block (p.properties.map Prod.fst) := by
  rw [BlockTest.eq_narrowed_iff hr h.known]
  have hstate : p.state.block = normalise block := (BlockState.block_of _ _).trans h.isOf
  by_cases hair : normalise block = air
  · -- nothing has a value there, and some property is asked for
    refine iff_of_false (fun hnarrowed => ?_) fun h => h.1 hair
    obtain ⟨q, hq⟩ := List.exists_mem_of_ne_nil _ h.nonempty
    have hsome : (Table.get? p.properties.reverse q.1).isSome :=
      Table.isSome_get?_iff.2 ⟨q, List.mem_reverse.2 hq, rfl⟩
    have hget := hnarrowed.get?_eq q.1
    rw [BlockState.found, if_pos (hstate.trans hair), BlockTest.wanted?_entriesOf h.allowed,
      Option.or_of_isSome hsome] at hget
    rw [← hget] at hsome
    cases hsome
  · rw [BlockState.found, if_neg (hstate ▸ hair)]
    exact (BlockTest.narrowed_of_iff h.isOf h.allowed).trans (and_iff_right hair).symm

/-- The rule that describes a block by its own properties compiles, and it matches exactly if the
block is not air and each property that has a value is given. -/
theorem isMatch_describing {payload : Json} (hvalid : Sections.shape payload = .valid s)
    (h : Presents s e block p) (i : Integrations) :
    ∃ a rule, RuleAttributes.ofFields
        [("block", BlockTest.describing block p.properties)] = (a, []) ∧
      Rule.compile s.registry.build i a = .ok (rule, []) ∧ rule.keys = [.block] ∧
      ∀ draw, rule.isMatch i e draw ↔ normalise block ≠ air ∧
        BlockTest.MentionsAll s.registry.build block (p.properties.map Prod.fst) := by
  have hne : BlockTest.entriesOf p.properties ≠ [] := by
    rw [BlockTest.entriesOf, ne_eq, List.map_eq_nil_iff]
    exact h.nonempty
  have hcompile := BlockTest.compile_of_narrows h.known hne
    (BlockTest.narrows_describing block p.properties)
  refine ⟨_, _, rfl, Rule.compile_block _ i rfl hcompile, rfl, fun draw => ?_⟩
  have hworld : e.world = some (s.world.getD {}).build := by
    obtain ⟨event, _, rfl⟩ := Option.map_eq_some_iff.1 h.event
    rfl
  have hloaded := ((s.world.getD {}).isLoaded_build p.pos.chunk).2 h.loaded
  rw [Rule.isMatch_singleton_iff, ← found_eq_narrowed_iff (Sections.regular_build hvalid) h]
  simp only [Check.holds, Check.blockHolds, hworld, Check.blockPlace, h.target,
    Check.isOneOfBlocks, BlockTest.allHold_singleton hloaded, BlockTest.holds,
    WorldSection.blockAt_build, h.last, Option.map_some, Option.getD_some, Except.ok.injEq,
    decide_eq_true_iff]

/-- A furnace where the event is. -/
def furnacePayload (properties : Table Text Text) : Json :=
  .obj [
    ("registry", .obj [("blocks", .obj [("furnace", .obj [
      ("facing", .arr [.str "north", .str "east"]), ("lit", .arr [.str "false", .str "true"])])])]),
    ("event", .obj [("pos", .arr [.int 0, .int 0, .int 0])]),
    ("world", .obj [("blocks", .arr [.obj [("pos", .arr [.int 0, .int 0, .int 0]),
      ("block", .str "furnace"),
      ("properties", .obj (properties.map fun q => (q.1, .str q.2)))]])])]

def furnacePlaced (properties : Table Text Text) : PlacedBlock :=
  ⟨⟨0, 0, 0⟩, "furnace", properties, none⟩

def furnaceSections (properties : Table Text Text) : Sections where
  registry := { blocks := BlockTest.furnaceTables }
  world := some { blocks := [furnacePlaced properties] }
  player := none
  event := some ⟨⟨0, 0, 0⟩, none⟩
  integrations := {}

def furnaceEvent (properties : Table Text Text) : Event where
  world := some (WorldSection.build { blocks := [furnacePlaced properties] })
  pos := some ⟨0, 0, 0⟩

theorem presents_furnace {properties : Table Text Text} (hne : properties ≠ [])
    (hallowed : ∀ q ∈ properties, BlockTest.Allowed BlockTest.furnaces "furnace" ⟨q.1, q.2⟩) :
    Presents (furnaceSections properties) (furnaceEvent properties) "furnace"
      (furnacePlaced properties) where
  event := rfl
  target := rfl
  last := rfl
  known := rfl
  isOf := rfl
  nonempty := hne
  allowed := hallowed
  loaded := List.not_mem_nil

def litOnly : Table Text Text :=
  [("lit", "true")]

def litEast : Table Text Text :=
  [("lit", "true"), ("facing", "east")]

theorem allowed_lit : BlockTest.Allowed BlockTest.furnaces "furnace" ⟨"lit", "true"⟩ :=
  ⟨_, rfl, by decide⟩

theorem allowed_facing : BlockTest.Allowed BlockTest.furnaces "furnace" ⟨"facing", "east"⟩ :=
  ⟨_, rfl, by decide⟩

theorem presents_litOnly :
    Presents (furnaceSections litOnly) (furnaceEvent litOnly) "furnace" (furnacePlaced litOnly) :=
  presents_furnace (List.cons_ne_nil _ _) (List.forall_mem_singleton.2 allowed_lit)

theorem presents_litEast :
    Presents (furnaceSections litEast) (furnaceEvent litEast) "furnace" (furnacePlaced litEast) :=
  presents_furnace (List.cons_ne_nil _ _)
    (List.forall_mem_cons.2 ⟨allowed_lit, List.forall_mem_singleton.2 allowed_facing⟩)

theorem isMatch_describing_litEast :
    Sections.shape (furnacePayload litEast) = .valid (furnaceSections litEast) ∧
    Presents (furnaceSections litEast) (furnaceEvent litEast) "furnace" (furnacePlaced litEast) ∧
    ∃ a rule, RuleAttributes.ofFields
        [("block", BlockTest.describing "furnace" litEast)] = (a, []) ∧
      Rule.compile BlockTest.furnaces .absent a = .ok (rule, []) ∧ rule.keys = [.block] ∧
      ∀ draw, rule.isMatch .absent (furnaceEvent litEast) draw := by
  have hvalid : Sections.shape (furnacePayload litEast) = .valid (furnaceSections litEast) := rfl
  obtain ⟨a, rule, ha, hcompile, hkeys, hmatch⟩ :=
    isMatch_describing hvalid presents_litEast .absent
  refine ⟨hvalid, presents_litEast, a, rule, ha, hcompile, hkeys, fun draw => (hmatch draw).2 ?_⟩
  refine ⟨by decide, fun name values hget _ => ?_⟩
  rcases Table.mem_of_get? hget with _ | ⟨_, _ | ⟨_, ⟨⟩⟩⟩ <;> decide

/-- The furnace is lit and faces nowhere, and its description asks for one that faces north. -/
theorem describing_litOnly_fails :
    Sections.shape (furnacePayload litOnly) = .valid (furnaceSections litOnly) ∧
    Presents (furnaceSections litOnly) (furnaceEvent litOnly) "furnace" (furnacePlaced litOnly) ∧
    ∃ a rule, RuleAttributes.ofFields
        [("block", BlockTest.describing "furnace" litOnly)] = (a, []) ∧
      Rule.compile BlockTest.furnaces .absent a = .ok (rule, []) ∧
      ∀ draw, rule.isMatch .absent (furnaceEvent litOnly) draw = false :=
  ⟨rfl, presents_litOnly, _, _, rfl, rfl, fun _ => rfl⟩

end Snapshot
end RuleGate
