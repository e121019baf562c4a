import RuleGate.Proofs.Descriptor.ItemMeaning
import RuleGate.Proofs.Descriptor.Units

/-!
# Energy and contents of a block

What the two units ask that look into the entity of a block: an expression of the energy that a side
exposes, zero where there is none, and an item on that side that is as one of the descriptors says
(`BlockTest.Contains`). For the latter neither the order of the slots nor that of the descriptors
matters. With the units this is all that an object says of a block
(`BlockTest.compile_conjoins`).
-/

namespace RuleGate.BlockTest

variable {r : Registry} {object : Fields} {d : BlockDescriptor} {compiled : Compiled} {w : World}
  {pos : BlockPos} {side : Option Direction}

/-- The energy on a side, zero without an entity, on a side that is not exposed, or without a
store. -/
def exposedEnergy (w : World) (pos : BlockPos) (side : Option Direction) : ℤ :=
  match w.entityAt pos with
  | some entity => if entity.exposes side then entity.energy.getD 0 else 0
  | none => 0

theorem getD_energyStored (w : World) (pos : BlockPos) (side : Option Direction) :
    ((w.entityAt pos).bind fun entity => entity.energyStored side).getD 0 =
      exposedEnergy w pos side := by
  unfold exposedEnergy BlockEntity.energyStored
  cases w.entityAt pos with
  | none => rfl
  | some entity =>
    dsimp only [Option.bind_some]
    split <;> rfl

/-- Some item on the side is as one of the entries says; no entry speaks of an empty slot. -/
def Contains (r : Registry) (entries : List Json) (side : Option Direction) (w : World)
    (pos : BlockPos) : Prop :=
  ∃ entity slots, w.entityAt pos = some entity ∧ entity.exposes side ∧ entity.items = some slots ∧
    ∃ s ∈ slots, s.isEmpty = false ∧
      ∃ entry ∈ entries, ∃ t, ItemTest.compile r entry = .ok t ∧ t.holds s = .ok true

/-- The same but for the order of the slots. -/
structure SameContents (w w' : World) (pos : BlockPos) : Prop where
  loaded : w.isLoaded pos.chunk = w'.isLoaded pos.chunk
  entity : Option.Rel (fun e e' : BlockEntity => e.sides = e'.sides ∧
    Option.Rel List.Perm e.items e'.items) (w.entityAt pos) (w'.entityAt pos)

theorem exposes_congr {e e' : BlockEntity} (h : e.sides = e'.sides) :
    e.exposes side = e'.exposes side := by
  unfold BlockEntity.exposes
  rw [h]

theorem Contains.of_same {w' : World} {entries entries' : List Json}
    (h : Contains r entries side w pos) (hsame : SameContents w w' pos)
    (hentries : ∀ entry, entry ∈ entries ↔ entry ∈ entries') :
    Contains r entries' side w' pos := by
  obtain ⟨entity, slots, hentity, hexposes, hslots, s, hs, hempty, entry, hentry, ht⟩ := h
  have hrel := hsame.entity
  rw [hentity] at hrel
  generalize hentity' : w'.entityAt pos = found at hrel
  cases hrel with
  | @some _ entity' h =>
    obtain ⟨hsides, hitems⟩ := h
    rw [hslots] at hitems
    generalize hslots' : entity'.items = stored at hitems
    cases hitems with
    | @some _ slots' hperm =>
      exact ⟨entity', slots', hentity', (exposes_congr hsides).symm.trans hexposes, hslots', s,
        hperm.mem_iff.1 hs, hempty, entry, (hentries entry).1 hentry, ht⟩

theorem rel_symm {α : Type} {R : α → α → Prop} (hR : ∀ {a b}, R a b → R b a) {o o' : Option α}
    (h : Option.Rel R o o') : Option.Rel R o' o := by
  cases h with
  | none => exact .none
  | some h => exact .some (hR h)

theorem SameContents.symm {w' : World} (h : SameContents w w' pos) : SameContents w' w pos where
  loaded := h.loaded.symm
  entity :=
    rel_symm (fun ⟨hsides, hitems⟩ => ⟨hsides.symm, rel_symm List.Perm.symm hitems⟩) h.entity

theorem anyHolds_eq_true_iff {tests : List ItemTest} {s : ItemStack}
    (h : ∃ b, ItemTest.anyHolds tests s = .ok b) : ItemTest.anyHolds tests s = .ok true ↔
      s.isEmpty = false ∧ ∃ t ∈ tests, t.holds s = .ok true := by
  unfold ItemTest.anyHolds at h ⊢
  cases hs : s.isEmpty with
  | true => simp
  | false =>
    rw [hs] at h
    have hany := (Except.decides_anyM_of_ok h).eq_true_iff
    simpa using hany

/-- A search of slots that has come to an answer has asked every slot that matters. -/
theorem decides_slots {tests : List ItemTest} {slots : List ItemStack}
    (h : ∃ b, slots.anyM (ItemTest.anyHolds tests) = .ok b) :
    Except.Decides (slots.anyM (ItemTest.anyHolds tests))
      (∃ s ∈ slots, s.isEmpty = false ∧ ∃ t ∈ tests, t.holds s = .ok true) := by
  obtain ⟨b, hb⟩ := h
  have hany := Except.decides_anyM_of_ok ⟨b, hb⟩
  refine hany.congr ⟨?_, ?_⟩
  · rintro ⟨s, hs, htrue⟩
    exact ⟨s, hs, (anyHolds_eq_true_iff ⟨true, htrue⟩).1 htrue⟩
  · rintro ⟨s, hs, hitem⟩
    cases b with
    | true => exact hany.eq_true_iff.1 hb
    | false =>
      have hfalse := Except.forall_eq_false_of_anyM hb s hs
      have htrue := (anyHolds_eq_true_iff ⟨false, hfalse⟩).2 hitem
      cases hfalse.symm.trans htrue

theorem holds_contents_nil (w : World) (pos : BlockPos) (side : Option Direction) :
    holds w pos (contents [] side) = .ok false := by
  have hslots (slots : List ItemStack) : slots.anyM (ItemTest.anyHolds []) = .ok false := by
    induction slots with
    | nil => rfl
    | cons s rest ih =>
      have hs : ItemTest.anyHolds [] s = .ok false := by
        unfold ItemTest.anyHolds
        split <;> rfl
      rw [List.anyM_cons, hs, Except.ok_bind, ih]
      rfl
  unfold holds
  dsimp only
  split
  · exact hslots _
  · rfl

theorem mem_filterMap_testOf?_iff {entries : List Json} {t : ItemTest} :
    t ∈ entries.filterMap (ItemTest.testOf? r) ↔
      ∃ entry ∈ entries, ItemTest.compile r entry = .ok t := by
  rw [List.mem_filterMap]
  refine exists_congr fun entry => and_congr_right fun _ => ?_
  unfold ItemTest.testOf?
  cases ItemTest.compile r entry <;> simp [Except.toOption]

theorem decides_holds_contents {entries : List Json}
    (h : ∃ b, holds w pos (contents (entries.filterMap (ItemTest.testOf? r)) side) = .ok b) :
    Except.Decides (holds w pos (contents (entries.filterMap (ItemTest.testOf? r)) side))
      (Contains r entries side w pos) := by
  rw [holds] at h ⊢
  cases hslots : (w.entityAt pos).bind fun entity => entity.itemSlots side with
  | none =>
    refine ⟨false, rfl, iff_of_false Bool.false_ne_true ?_⟩
    rintro ⟨entity, slots, hentity, hexposes, hitems, -⟩
    rw [hentity, Option.bind_some, BlockEntity.itemSlots, if_pos hexposes, hitems] at hslots
    cases hslots
  | some slots =>
    rw [hslots] at h
    obtain ⟨entity, hentity, hitems⟩ := Option.bind_eq_some_iff.1 hslots
    rw [BlockEntity.itemSlots, Option.ite_none_right_eq_some] at hitems
    refine (decides_slots h).congr ?_
    simp only [mem_filterMap_testOf?_iff]
    constructor
    · rintro ⟨s, hs, hempty, t, ⟨entry, hentry, hcompile⟩, ht⟩
      exact ⟨entity, slots, hentity, hitems.1, hitems.2, s, hs, hempty, entry, hentry, t, hcompile,
        ht⟩
    · rintro ⟨entity', slots', hentity', -, hitems', s, hs, hempty, entry, hentry, t, hcompile, ht⟩
      cases hentity.symm.trans hentity'
      cases hitems.2.symm.trans hitems'
      exact ⟨s, hs, hempty, t, ⟨entry, hentry, hcompile⟩, ht⟩

theorem eq_of_read_anything {name : Text} {v v' : Json}
    (hread : (Schema.Form.optional name .null Schema.anything).read object = .valid v')
    (hget : object.get? name = some v) : v' = v := by
  rw [Schema.Form.read_optional_anything, hget] at hread
  exact (Schema.Checked.valid.inj hread).symm

theorem compile_energy_iff (hread : BlockDescriptor.form.read object = .valid d)
    (hside : Descriptor.onPart sideOf d.side = .ok side) (henergy : d.energy ≠ .null) :
    compile r (.obj (BlockUnit.energy.only object)) = .ok compiled ↔
      ∃ e, Expression.ofJson d.energy = .ok e ∧ compiled = ⟨[.energy e side], []⟩ := by
  rw [compile_only_iff hread, compileDescriptor_eq_ok_iff]
  constructor
  · rintro ⟨identity, side', energy, hidentity, hside', hoptional, hcontents⟩
    cases hidentity
    cases hside.symm.trans hside'
    obtain ⟨e, he, rfl⟩ := (Expression.optional_eq_ok_iff henergy).1 hoptional
    exact ⟨e, he, (Except.ok.inj hcontents).symm⟩
  · rintro ⟨e, he, rfl⟩
    exact ⟨none, side, some e, rfl, hside, (Expression.optional_eq_ok_iff henergy).2 ⟨e, he, rfl⟩,
      rfl⟩

theorem compile_contains_iff (hread : BlockDescriptor.form.read object = .valid d)
    (hside : Descriptor.onPart sideOf d.side = .ok side) (hcontains : d.contains ≠ .null) :
    compile r (.obj (BlockUnit.contains.only object)) = .ok compiled ↔
      (∀ entry ∈ contentsEntries d, ¬ Failure.Stuck (ItemTest.compile r entry)) ∧
        compiled = ⟨[contents ((contentsEntries d).filterMap (ItemTest.testOf? r)) side],
          (contentsEntries d).filterMap (ItemTest.warningOf? r)⟩ := by
  have hwith : withContents r [] side (d.cut .contains) = .ok compiled ↔ _ :=
    withContents_eq_ok_iff hcontains
  refine Iff.trans ?_ hwith
  rw [compile_only_iff hread, compileDescriptor_eq_ok_iff]
  constructor
  · rintro ⟨identity, side', energy, hidentity, hside', henergy, hcontents⟩
    cases hidentity
    cases hside.symm.trans hside'
    cases henergy
    exact hcontents
  · intro hcontents
    exact ⟨none, side, none, rfl, hside, rfl, hcontents⟩

/-- What the contents ask for, whatever the order of the entries and of the slots. -/
structure AsksContents (r : Registry) (object : Fields) (d : BlockDescriptor)
    (side : Option Direction) (tests : List BlockTest) : Prop where
  decides : ∀ {w : World} {pos : BlockPos}, w.isLoaded pos.chunk →
    (∃ b, allHold w pos tests = .ok b) →
      Except.Decides (allHold w pos tests) (Contains r (contentsEntries d) side w pos)
  nothing : (∀ entry ∈ contentsEntries d, ∀ t, ItemTest.compile r entry ≠ .ok t) →
    ∀ (w : World) (pos : BlockPos), allHold w pos tests = .ok false
  reordered : ∀ {v : Json}, v ≠ .null →
    (contentsEntries d).Perm (contentsEntries { d with contains := v }) →
      ∃ compiled, compile r (.obj (BlockUnit.contains.only (object.insert "contains" v))) =
          .ok compiled ∧
        ∀ {w w' : World} {pos : BlockPos}, SameContents w w' pos →
          (∃ b, allHold w pos tests = .ok b) → (∃ b, allHold w' pos compiled.tests = .ok b) →
            allHold w' pos compiled.tests = allHold w pos tests

/-- What the units ask for that look into the entity of a block. -/
structure LooksInside (r : Registry) (object : Fields) (d : BlockDescriptor)
    (side : Option Direction) : Prop where
  energy : ∀ {compiled : Compiled}, BlockUnit.energy.Present object →
    compile r (.obj (BlockUnit.energy.only object)) = .ok compiled →
      ∀ {w : World} {pos : BlockPos}, w.isLoaded pos.chunk →
        Except.Decides (allHold w pos compiled.tests)
          (Expression.Accepts d.energy (exposedEnergy w pos side))
  contents : ∀ {compiled : Compiled}, BlockUnit.contains.Present object →
    compile r (.obj (BlockUnit.contains.only object)) = .ok compiled →
      AsksContents r object d side compiled.tests

theorem allHold_singleton (hloaded : w.isLoaded pos.chunk) (t : BlockTest) :
    allHold w pos [t] = holds w pos t := by
  rw [allHold_of_isLoaded hloaded, List.allM_cons]
  rcases holds w pos t with f | _ | _ <;> rfl

theorem decides_energy {e : Expression} (he : Expression.ofJson d.energy = .ok e)
    (hloaded : w.isLoaded pos.chunk) :
    Except.Decides (allHold w pos [.energy e side])
      (Expression.Accepts d.energy (exposedEnergy w pos side)) := by
  refine ⟨e.holds (exposedEnergy w pos side), ?_, ?_⟩
  · rw [allHold_singleton hloaded, holds, getD_energyStored]
  · constructor
    · intro hholds
      exact ⟨e, he, hholds⟩
    · rintro ⟨e', he', hholds⟩
      cases he.symm.trans he'
      exact hholds

theorem decides_contents {entries : List Json} (hloaded : w.isLoaded pos.chunk)
    (h : ∃ b, allHold w pos [contents (entries.filterMap (ItemTest.testOf? r)) side] = .ok b) :
    Except.Decides (allHold w pos [contents (entries.filterMap (ItemTest.testOf? r)) side])
      (Contains r entries side w pos) := by
  rw [allHold_singleton hloaded] at h ⊢
  exact decides_holds_contents h

theorem allHold_eq_of_same {w' : World} {entries entries' : List Json}
    (hsame : SameContents w w' pos) (hentries : entries.Perm entries')
    (h : ∃ b, allHold w pos [contents (entries.filterMap (ItemTest.testOf? r)) side] = .ok b)
    (h' : ∃ b, allHold w' pos [contents (entries'.filterMap (ItemTest.testOf? r)) side] = .ok b) :
    allHold w' pos [contents (entries'.filterMap (ItemTest.testOf? r)) side] =
      allHold w pos [contents (entries.filterMap (ItemTest.testOf? r)) side] := by
  cases hloaded : w.isLoaded pos.chunk with
  | false =>
    have hloaded' := hsame.loaded.symm.trans hloaded
    rw [allHold_of_not_isLoaded hloaded, allHold_of_not_isLoaded hloaded']
  | true =>
    have hcontains := decides_contents hloaded h
    have hcontains' := decides_contents (hsame.loaded.symm.trans hloaded) h'
    refine (hcontains'.congr ⟨fun hin => ?_, fun hin => ?_⟩).unique hcontains
    · exact hin.of_same hsame.symm fun _ => hentries.symm.mem_iff
    · exact hin.of_same hsame fun _ => hentries.mem_iff

theorem read_insert_contains (hread : BlockDescriptor.form.read object = .valid d) (v : Json) :
    BlockDescriptor.form.read (object.insert "contains" v) =
      .valid { d with contains := v } := by
  have hcontains : (Schema.Form.optional "contains" .null Schema.anything).read
      (object.insert "contains" v) = .valid v := by
    rw [Schema.Form.read_optional_anything, Table.get?_insert, if_pos rfl, Option.getD_some]
  rw [BlockDescriptor.read_form_iff] at hread ⊢
  obtain ⟨hblock, hproperties, hmod, henergy, hside, -⟩ := hread
  simp (disch := decide) only [Schema.Form.read_optional_insert]
  exact ⟨hblock, hproperties, hmod, henergy, hside, hcontains⟩

theorem asksContents (hread : BlockDescriptor.form.read object = .valid d)
    (hside : Descriptor.onPart sideOf d.side = .ok side) (hcontains : d.contains ≠ .null)
    (h : compile r (.obj (BlockUnit.contains.only object)) = .ok compiled) :
    AsksContents r object d side compiled.tests := by
  obtain ⟨hstuck, rfl⟩ := (compile_contains_iff hread hside hcontains).1 h
  refine ⟨decides_contents, fun hnothing w pos => ?_, fun {v} hv hperm => ?_⟩
  · have hnil : (contentsEntries d).filterMap (ItemTest.testOf? r) = [] := by
      rw [ItemTest.filterMap_testOf?_eq_nil_iff]
      rintro ⟨entry, hentry, t, ht⟩
      exact hnothing entry hentry t ht
    rw [hnil]
    cases hloaded : w.isLoaded pos.chunk with
    | false => exact allHold_of_not_isLoaded hloaded _
    | true => rw [allHold_singleton hloaded, holds_contents_nil]
  · have hstuck' (entry : Json) (hentry : entry ∈ contentsEntries { d with contains := v }) :
        ¬ Failure.Stuck (ItemTest.compile r entry) := hstuck entry (hperm.mem_iff.2 hentry)
    refine ⟨_, (compile_contains_iff (read_insert_contains hread v) hside hv).2 ⟨hstuck', rfl⟩, ?_⟩
    intro w w' pos hsame hanswers hanswers'
    exact allHold_eq_of_same hsame hperm hanswers hanswers'

theorem looksInside (hread : BlockDescriptor.form.read object = .valid d)
    (hside : Descriptor.onPart sideOf d.side = .ok side) : LooksInside r object d side where
  energy hpresent hcompile w pos hloaded := by
    obtain ⟨v, hget, hv⟩ := hpresent
    obtain ⟨-, -, -, henergy, -, -⟩ := BlockDescriptor.read_form_iff.1 hread
    have hne : d.energy ≠ .null := eq_of_read_anything henergy hget ▸ hv
    obtain ⟨e, he, rfl⟩ := (compile_energy_iff hread hside hne).1 hcompile
    exact decides_energy he hloaded
  contents hpresent hcompile := by
    obtain ⟨v, hget, hv⟩ := hpresent
    obtain ⟨-, -, -, -, -, hcontains⟩ := BlockDescriptor.read_form_iff.1 hread
    have hne : d.contains ≠ .null := eq_of_read_anything hcontains hget ▸ hv
    exact asksContents hread hside hne hcompile

/-- A described block is as all of its units say, and those that look inside mean what they ask. -/
theorem compile_conjoins {raw : Json} (hraw : Descriptor.decode raw = .ok (.obj object))
    (h : compile r raw = .ok compiled) : Conjoins r object compiled.tests ∧
      ∃ d side, BlockDescriptor.form.read object = .valid d ∧
        Descriptor.onPart sideOf d.side = .ok side ∧ LooksInside r object d side := by
  have hobject := compileObject_eq_ok h hraw
  obtain ⟨d, hread, hcompile⟩ := compileObject_eq_ok_iff.1 hobject
  obtain ⟨_, side, _, _, hside, _⟩ := compileDescriptor_eq_ok_iff.1 hcompile
  exact ⟨conjoins_of_compileObject hobject, d, side, hread, hside, looksInside hread hside⟩

/-- A chest with at least a hundred units of energy below and a book in reach from there. -/
def chargedChest : Fields :=
  [("block", .str "chest"), ("mod", .str "minecraft"), ("energy", .str ">=100"),
    ("side", .str "down"), ("contains", .arr [.str "book", .str "paper"])]

theorem compile_conjoins_chargedChest :
    ∃ compiled, compile (.build ["book"] [("chest", [])] []) (.obj chargedChest) = .ok compiled ∧
      Conjoins (.build ["book"] [("chest", [])] []) chargedChest compiled.tests ∧
        ∃ d side, BlockDescriptor.form.read chargedChest = .valid d ∧
          Descriptor.onPart sideOf d.side = .ok side ∧
            LooksInside (.build ["book"] [("chest", [])] []) chargedChest d side := by
  obtain ⟨compiled, hcompiled⟩ : ∃ compiled,
      compile (.build ["book"] [("chest", [])] []) (.obj chargedChest) = .ok compiled := ⟨_, rfl⟩
  exact ⟨compiled, hcompiled, compile_conjoins rfl hcompiled⟩

end RuleGate.BlockTest
