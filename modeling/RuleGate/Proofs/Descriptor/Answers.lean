import RuleGate.Descriptor.Block
import RuleGate.Proofs.Schema
import RuleGate.Proofs.Search

/-!
# Tests without an answer

A number in the tag of a stack is cut to an integer, and a double that is not finite has none. A
test of a tag *stumbles* over a compound if it comes upon such a double, which it may do in the
compound itself or in a compound of one of its lists; searches stop early, so it depends on the
order of the elements whether it does. Tests have no answer exactly when they stumble
(`TagTest.holds_eq_error_iff`, `ItemTest.holds_eq_error_iff`, `BlockTest.allHold_eq_error_iff`).

A compound is *unreadable* if such a double can be reached at all. Every test has an answer on a
stack whose tag is readable, and on no other stack do all tests have one (`ItemTest.total_iff`).
-/

namespace RuleGate

namespace TagTest

theorem integerAt_of_not_number {compound : Fields} {tag : Text}
    (h : ∀ v, compound.get? tag = some v → v.number? = none) : integerAt compound tag = .ok 0 := by
  unfold integerAt
  cases hget : compound.get? tag with
  | none => rfl
  | some v =>
    have hv := h v hget
    cases v with
    | int n | float d | bool b => cases hv
    | _ => rfl

/-- No integer is found under the name, only a double that is not finite. -/
def NoInteger (compound : Fields) (tag : Text) : Prop :=
  ∃ d, compound.get? tag = some (.float d) ∧ d.isFinite = false

theorem integerAt_eq_error_iff {compound : Fields} {tag : Text} :
    (∃ f, integerAt compound tag = .error f) ↔ NoInteger compound tag := by
  unfold integerAt NoInteger
  cases compound.get? tag with
  | none => simp
  | some v =>
    cases v with
    | float d => cases d <;> simp [Double.truncate, Double.isFinite]
    | _ => simp

mutual

/-- A test that comes upon a number without an integer. -/
def Stumbles (compound : Fields) : TagTest → Prop
  | value tag _ => NoInteger compound tag
  | contains tag children =>
    ∃ elements, compound.get? tag = some (.arr elements) ∧
      Reaches (fun v => ∀ fields, v = .obj fields → allHold fields children = .ok false)
        (fun v => ∃ fields, v = .obj fields ∧ SomeStumbles fields children) elements

/-- One of the tests stumbles, and those before it pass. -/
def SomeStumbles (compound : Fields) : List TagTest → Prop
  | [] => False
  | t :: rest => Stumbles compound t ∨ holds compound t = .ok true ∧ SomeStumbles compound rest

end

/-- Whether some element is a compound that passes, which is what a search asks. -/
def elementHolds (children : List TagTest) : Json → Except NumberFault Bool
  | .obj fields => allHold fields children
  | _ => .ok false

theorem holds_contains (compound : Fields) (tag : Text) (children : List TagTest) :
    holds compound (contains tag children) =
      match compound.get? tag with
      | some (.arr elements) => elements.anyM (elementHolds children)
      | _ => .ok false := by
  rw [holds]
  rfl

theorem elementHolds_eq_false_iff {children : List TagTest} {v : Json} :
    elementHolds children v = .ok false ↔
      ∀ fields, v = .obj fields → allHold fields children = .ok false := by
  cases v <;> simp [elementHolds]

mutual

theorem holds_eq_error_iff (compound : Fields) (t : TagTest) :
    (∃ f, holds compound t = .error f) ↔ Stumbles compound t := by
  match t with
  | value tag e =>
    simp only [holds, Stumbles, Except.bind_eq_error_iff, ← integerAt_eq_error_iff]
    simp
  | contains tag children =>
    have helement (v : Json) : (∃ f, elementHolds children v = .error f) ↔
        ∃ fields, v = .obj fields ∧ SomeStumbles fields children := by
      cases v with
      | obj fields => simpa [elementHolds] using allHold_eq_error_iff fields children
      | _ => simp [elementHolds]
    rw [holds_contains, Stumbles]
    split
    case h_1 elements hget =>
      simp only [Except.anyM_eq_error_iff, elementHolds_eq_false_iff, helement, hget,
        Option.some.injEq, Json.arr.injEq, exists_eq_left']
    case h_2 hget =>
      refine iff_of_false (by simp) ?_
      rintro ⟨elements, helements, _⟩
      exact hget elements helements

theorem allHold_eq_error_iff (compound : Fields) (ts : List TagTest) :
    (∃ f, allHold compound ts = .error f) ↔ SomeStumbles compound ts := by
  match ts with
  | [] => simp [allHold, SomeStumbles]
  | t :: rest =>
    rw [allHold, SomeStumbles, ← holds_eq_error_iff compound t,
      ← allHold_eq_error_iff compound rest]
    rcases holds compound t with f | _ | _ <;> simp

end

/-- Somewhere stands a double that is not finite: under a name, or in a compound of a list. -/
inductive Unreadable : Fields → Prop
  | number {compound : Fields} {tag : Text} (h : NoInteger compound tag) : Unreadable compound
  | element {compound : Fields} {tag : Text} {elements : List Json} {fields : Fields}
      (h : compound.get? tag = some (.arr elements)) (hmem : .obj fields ∈ elements)
      (hfields : Unreadable fields) : Unreadable compound

theorem not_unreadable_nil : ¬ Unreadable [] := by
  rintro (⟨_, hget, _⟩ | ⟨hget, _, _⟩) <;> cases hget

theorem exists_within_of_unreadable {compound : Fields} (h : Unreadable compound) :
    ∃ d, d.isFinite = false ∧ Json.Within (.float d) (.obj compound) := by
  induction h with
  | number h =>
    obtain ⟨d, hget, hd⟩ := h
    exact ⟨d, hd, .field (Table.mem_of_get? hget) .self⟩
  | element hget hmem _ ih =>
    obtain ⟨d, hd, hwithin⟩ := ih
    exact ⟨d, hd, .field (Table.mem_of_get? hget) (.item hmem hwithin)⟩

theorem not_unreadable_of_finite {compound : Fields} (h : Json.Finite (.obj compound)) :
    ¬ Unreadable compound := by
  intro hun
  obtain ⟨d, hd, hwithin⟩ := exists_within_of_unreadable hun
  rw [h d hwithin] at hd
  cases hd

mutual

theorem unreadable_of_stumbles {compound : Fields} {t : TagTest} (h : Stumbles compound t) :
    Unreadable compound := by
  match t with
  | value tag e => exact .number h
  | contains tag children =>
    obtain ⟨elements, hget, hreach⟩ := h
    obtain ⟨_, hmem, fields, rfl, hfields⟩ := exists_of_reaches hreach
    exact .element hget hmem (unreadable_of_someStumbles hfields)

theorem unreadable_of_someStumbles {compound : Fields} {ts : List TagTest}
    (h : SomeStumbles compound ts) : Unreadable compound := by
  match ts with
  | t :: rest =>
    rcases h with ht | ⟨_, hrest⟩
    · exact unreadable_of_stumbles ht
    · exact unreadable_of_someStumbles hrest

end

theorem allHold_singleton_ne_true {t : TagTest} (h : ∀ fields, holds fields t ≠ .ok true)
    (fields : Fields) : allHold fields [t] ≠ .ok true := by
  rw [allHold]
  rcases ht : holds fields t with f | _ | _
  · simp
  · simp
  · exact absurd ht (h fields)

theorem holds_contains_ne_true {children : List TagTest}
    (h : ∀ fields, allHold fields children ≠ .ok true) (tag : Text) (compound : Fields) :
    holds compound (contains tag children) ≠ .ok true := by
  rw [holds_contains]
  split
  · apply Except.anyM_ne_true
    intro v _
    cases v with
    | obj fields => exact h fields
    | _ => simp [elementHolds]
  · simp

/-- Tests that never pass are put to every element of a list, up to one over which they stumble. -/
theorem stumbles_contains {children : List TagTest} {compound fields : Fields} {tag : Text}
    {elements : List Json} (h : ∀ fields, allHold fields children ≠ .ok true)
    (hget : compound.get? tag = some (.arr elements)) (hmem : .obj fields ∈ elements)
    (hfields : SomeStumbles fields children) : Stumbles compound (contains tag children) := by
  refine ⟨elements, hget, reaches_of_exists ?_ ⟨_, hmem, fields, rfl, hfields⟩⟩
  intro v _
  rw [← elementHolds_eq_false_iff]
  cases v with
  | obj other =>
    rcases hother : allHold other children with f | _ | _
    · exact .inr ⟨other, rfl, (allHold_eq_error_iff other children).1 ⟨f, hother⟩⟩
    · exact .inl hother
    · exact absurd hother (h other)
  | _ => exact .inl rfl

/-- Some test stumbles over an unreadable compound: one that asks for an integer from one to zero
and so never passes. -/
theorem exists_stumbles_of_unreadable {compound : Fields} (h : Unreadable compound) :
    ∃ t, Stumbles compound t ∧ ∀ fields, holds fields t ≠ .ok true := by
  induction h with
  | @number compound tag h =>
    refine ⟨value tag (.between 1 0), h, ?_⟩
    intro fields htrue
    obtain ⟨n, _, hn⟩ := Except.bind_eq_ok_iff.1 htrue
    have hrange : 1 ≤ n ∧ n ≤ 0 := by simpa [Expression.holds] using hn
    omega
  | @element compound tag elements fields hget hmem _ ih =>
    obtain ⟨t, hstumbles, hnever⟩ := ih
    have hall := allHold_singleton_ne_true hnever
    exact ⟨contains tag [t], stumbles_contains hall hget hmem (.inl hstumbles),
      holds_contains_ne_true hall tag⟩

/-- All tests have an answer on a compound exactly if it is readable. -/
theorem total_iff {compound : Fields} :
    (∀ ts, ∃ b, allHold compound ts = .ok b) ↔ ¬ Unreadable compound := by
  constructor
  · intro htotal h
    obtain ⟨t, ht, _⟩ := exists_stumbles_of_unreadable h
    obtain ⟨f, hf⟩ := (allHold_eq_error_iff compound [t]).2 (.inl ht)
    obtain ⟨b, hb⟩ := htotal [t]
    cases hf.symm.trans hb
  · intro h ts
    rcases hts : allHold compound ts with f | b
    · exact absurd (unreadable_of_someStumbles ((allHold_eq_error_iff compound ts).1 ⟨f, hts⟩)) h
    · exact ⟨b, rfl⟩

end TagTest

namespace ItemStack

def compound (s : ItemStack) : Fields :=
  s.tag.getD []

end ItemStack

namespace ItemTest

/-- A test that looks into the tag of the stack and stumbles there. -/
def Stumbles (s : ItemStack) : ItemTest → Prop
  | compact _ _ _ => False
  | fields f => f.plainHold s ∧ TagTest.SomeStumbles s.compound f.tags

theorem holds_eq_error_iff (s : ItemStack) (t : ItemTest) :
    (∃ f, t.holds s = .error f) ↔ t.Stumbles s := by
  cases t with
  | compact item damage tag => simp [holds, Stumbles]
  | fields f =>
    rw [holds, Stumbles, ItemFields.holds, ← TagTest.allHold_eq_error_iff]
    cases f.plainHold s with
    | false => simp
    | true => simp [Except.bind_eq_error_iff, ItemStack.compound]

theorem unreadable_of_stumbles {s : ItemStack} {t : ItemTest} (h : t.Stumbles s) :
    TagTest.Unreadable s.compound := by
  cases t with
  | compact item damage tag => exact h.elim
  | fields f => exact TagTest.unreadable_of_someStumbles h.2

theorem total_iff {s : ItemStack} :
    (∀ t : ItemTest, ∃ b, t.holds s = .ok b) ↔ ¬ TagTest.Unreadable s.compound := by
  constructor
  · intro htotal
    rw [← TagTest.total_iff]
    intro ts
    -- the item that is asked for nothing but its tag
    obtain ⟨b, hb⟩ := htotal (.fields { tags := ts })
    obtain ⟨tagged, htagged, _⟩ := Except.bind_eq_ok_iff.1 hb
    exact ⟨tagged, htagged⟩
  · intro h t
    rcases ht : t.holds s with f | b
    · exact absurd (unreadable_of_stumbles ((holds_eq_error_iff s t).1 ⟨f, ht⟩)) h
    · exact ⟨b, rfl⟩

/-- One of the tests of a stack stumbles, and those before it do not pass. -/
def SomeStumbles (tests : List ItemTest) (s : ItemStack) : Prop :=
  s.isEmpty = false ∧ Reaches (fun t => t.holds s = .ok false) (Stumbles s) tests

theorem anyHolds_eq_error_iff (tests : List ItemTest) (s : ItemStack) :
    (∃ f, anyHolds tests s = .error f) ↔ SomeStumbles tests s := by
  unfold anyHolds SomeStumbles
  cases s.isEmpty with
  | true => simp
  | false => simp [Except.anyM_eq_error_iff, holds_eq_error_iff]

/-- Stacks are gone through up to one of which some test stumbles. -/
def HeldStumble (tests : List ItemTest) (held : List ItemStack) : Prop :=
  Reaches (fun s => anyHolds tests s = .ok false) (SomeStumbles tests) held

theorem anyM_anyHolds_eq_error_iff (tests : List ItemTest) (held : List ItemStack) :
    (∃ f, held.anyM (anyHolds tests) = .error f) ↔ HeldStumble tests held := by
  simp only [Except.anyM_eq_error_iff, anyHolds_eq_error_iff, HeldStumble]

theorem unreadable_of_heldStumble {tests : List ItemTest} {held : List ItemStack}
    (h : HeldStumble tests held) : ∃ s ∈ held, TagTest.Unreadable s.compound := by
  obtain ⟨s, hs, _, hreach⟩ := exists_of_reaches h
  obtain ⟨t, _, ht⟩ := exists_of_reaches hreach
  exact ⟨s, hs, unreadable_of_stumbles ht⟩

end ItemTest

namespace BlockTest

variable (w : World) (pos : BlockPos)

/-- The stacks that a test of a block looks at. -/
def looksAt : BlockTest → List ItemStack
  | contents _ side => ((w.entityAt pos).bind fun entity => entity.itemSlots side).getD []
  | _ => []

theorem exists_items_of_mem_looksAt {t : BlockTest} {s : ItemStack} (h : s ∈ t.looksAt w pos) :
    ∃ entity stored, w.entityAt pos = some entity ∧ entity.items = some stored ∧ s ∈ stored := by
  cases t with
  | contents items side =>
    rw [looksAt] at h
    cases hentity : w.entityAt pos with
    | none =>
      rw [hentity] at h
      cases h
    | some entity =>
      rw [hentity, Option.bind_some, BlockEntity.itemSlots] at h
      split at h
      · cases hitems : entity.items with
        | none =>
          rw [hitems] at h
          cases h
        | some stored =>
          rw [hitems] at h
          exact ⟨entity, stored, rfl, hitems, h⟩
      · cases h
  | _ => cases h

def Stumbles : BlockTest → Prop
  | contents items side => ItemTest.HeldStumble items (looksAt w pos (contents items side))
  | _ => False

theorem holds_eq_error_iff (t : BlockTest) :
    (∃ f, t.holds w pos = .error f) ↔ t.Stumbles w pos := by
  cases t with
  | contents items side =>
    rw [Stumbles, looksAt, holds, ← ItemTest.anyM_anyHolds_eq_error_iff]
    cases (w.entityAt pos).bind fun entity => entity.itemSlots side <;> simp
  | _ => simp [holds, Stumbles]

theorem unreadable_of_stumbles {t : BlockTest} (h : t.Stumbles w pos) :
    ∃ s ∈ t.looksAt w pos, TagTest.Unreadable s.compound := by
  cases t with
  | contents items side => exact ItemTest.unreadable_of_heldStumble h
  | _ => exact h.elim

/-- One of the tests of a block stumbles, and those before it pass. -/
def SomeStumbles (tests : List BlockTest) : Prop :=
  w.isLoaded pos.chunk ∧ Reaches (fun t => t.holds w pos = .ok true) (Stumbles w pos) tests

theorem allHold_eq_error_iff (tests : List BlockTest) :
    (∃ f, allHold w pos tests = .error f) ↔ SomeStumbles w pos tests := by
  unfold allHold SomeStumbles
  by_cases hloaded : w.isLoaded pos.chunk
  · simp only [hloaded, if_true, true_and, Except.allM_eq_error_iff, holds_eq_error_iff]
  · simp [hloaded]

end BlockTest
end RuleGate
