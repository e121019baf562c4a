import RuleGate.Proofs.Rule.Kinds

/-!
# The parts of checks

The check of `block` is made of the tests of each block, and a check of items of the tests of each
item. Which check comes of a list of values is known from the parts that each value contributes:
every block must compile (`Check.makes_blocksAt_iff`), while of items those that fail are left out,
as long as one is left (`Check.makes_compileItems_iff`).
-/

namespace RuleGate

namespace Check

/-- There is a check, whatever is reported besides. -/
def Makes (x : Except NumberFault Outcome) (c : Check) : Prop :=
  ∃ reported, x = .ok ⟨some c, reported⟩

theorem Makes.unique {x : Except NumberFault Outcome} {c c' : Check} (h : Makes x c)
    (h' : Makes x c') : c = c' := by
  obtain ⟨_, hx⟩ := h
  obtain ⟨_, hx'⟩ := h'
  have heq := Except.ok.inj (hx.symm.trans hx')
  exact Option.some.inj (Outcome.mk.inj heq).1

theorem makes_ofResult_iff {x : Except CompileError Check} {c : Check} :
    Makes (.ok (.ofResult x)) c ↔ x = .ok c := by
  cases x <;> simp [Makes, Outcome.ofResult]

variable (r : Registry)

/-- What a block contributes, one list of tests. -/
def testsOf (raw : Json) : List (List BlockTest) :=
  match BlockTest.compile r raw with
  | .ok compiled => [compiled.tests]
  | .error _ => []

theorem blocksOf_eq_ok_iff {vs : List Json} {tests : List (List BlockTest)} :
    (∃ reported, blocksOf r vs = .ok (.ok tests, reported)) ↔
      (∀ v ∈ vs, ∃ compiled, BlockTest.compile r v = .ok compiled) ∧
        tests = vs.flatMap (testsOf r) := by
  induction vs generalizing tests with
  | nil => simp [blocksOf, eq_comm]
  | cons v rest ih =>
    rw [List.forall_mem_cons, List.flatMap_cons, blocksOf, testsOf]
    rcases hv : BlockTest.compile r v with (e | f) | compiled
    · simp
    · simp
    · simp only [Except.bind_eq_ok_iff, Prod.exists, Except.pure_eq_ok, Except.ok.injEq,
        Prod.mk.injEq]
      constructor
      · rintro ⟨_, others, more, hrest, hmap, _⟩
        obtain ⟨ts, rfl, rfl⟩ := Except.map_eq_ok_iff.1 hmap
        obtain ⟨hall, rfl⟩ := ih.1 ⟨more, hrest⟩
        exact ⟨⟨⟨compiled, rfl⟩, hall⟩, rfl⟩
      · rintro ⟨⟨_, hall⟩, rfl⟩
        obtain ⟨more, hrest⟩ := ih.2 ⟨hall, rfl⟩
        exact ⟨_, _, more, hrest, rfl, rfl⟩

theorem makes_blocksAt_iff {offsets vs : List Json} {c : Check} :
    Makes (blocksAt r offsets vs) c ↔ ∃ offset, offsetOf offsets = .ok offset ∧
      (∀ v ∈ vs, ∃ compiled, BlockTest.compile r v = .ok compiled) ∧
        c = block offset (vs.flatMap (testsOf r)) := by
  constructor
  · rintro ⟨reported, h⟩
    rcases blocksAt_cases h with ⟨e, ho⟩ | ⟨e, _, ho⟩ | ⟨offset, tests, _, hoffset, hblocks, ho⟩
    · cases ho
    · cases ho
    · obtain ⟨hall, rfl⟩ := (blocksOf_eq_ok_iff r).1 ⟨_, hblocks⟩
      exact ⟨offset, hoffset, hall, Option.some.inj (Outcome.mk.inj ho).1⟩
  · rintro ⟨offset, hoffset, hall, rfl⟩
    obtain ⟨reported, hblocks⟩ := (blocksOf_eq_ok_iff r).2 ⟨hall, rfl⟩
    refine ⟨reported, ?_⟩
    simp [blocksAt, hoffset, hblocks, Outcome.ofResult, Except.map]

/-- What a description contributes: a test for each entry that compiles. -/
def itemsOf (raw : Json) : List ItemTest :=
  (ItemTest.entriesOf raw).filterMap (ItemTest.testOf? r)

theorem makes_compileItems_iff {vs : List Json} {f : List ItemTest → Check} {c : Check} :
    Makes (compileItems r vs f) c ↔
      (∀ v ∈ vs, ∀ entry ∈ ItemTest.entriesOf v, ¬ Failure.Stuck (ItemTest.compile r entry)) ∧
        vs.flatMap (itemsOf r) ≠ [] ∧ c = f (vs.flatMap (itemsOf r)) := by
  have htests : (vs.flatMap ItemTest.entriesOf).filterMap (ItemTest.testOf? r) =
      vs.flatMap (itemsOf r) := List.filterMap_flatMap
  simp only [Makes, compileItems_eq_ok_iff, htests, List.forall_mem_flatMap, Outcome.mk.injEq]
  constructor
  · rintro ⟨reported, hstuck, hc, _⟩
    split at hc
    · cases hc
    · exact ⟨hstuck, ‹_›, Option.some.inj hc⟩
  · rintro ⟨hstuck, hne, rfl⟩
    exact ⟨_, hstuck, (if_neg hne).symm, rfl⟩

end Check

namespace Rule

open Check (Makes)

variable (r : Registry) (i : Integrations)

theorem makes_compileKey_iff (a : RuleAttributes) {k : Key} {c : Check} :
    Makes (compileKey r i a k) c ↔
      a.has k ∧ missing? i k = none ∧ Makes (Check.compile r a k) c := by
  by_cases hhas : a.has k
  · cases hmissing : missing? i k with
    | some capability =>
      rw [compileKey_of_missing r i a hhas hmissing, Check.makes_ofResult_iff]
      simp
    | none =>
      rw [compileKey_of_not_missing r i a hhas hmissing]
      simp [hhas]
  · rw [compileKey_of_not_has r i a (Bool.eq_false_iff.2 hhas)]
    simp [Makes, hhas, Outcome.none]

end Rule
end RuleGate
