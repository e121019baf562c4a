import RuleGate.Proofs.Descriptor.Single

/-!
# Batches of items

Compiling a list of descriptors sorts its entries, one after another, into tests and warnings
(`ItemTest.Sorts`). So nothing is lost and nothing is added, both come in the order of the entries,
and of two lists in a row the two batches are put in a row (`ItemTest.compileAll_sorts`).
-/

namespace RuleGate.ItemTest

variable {r : Registry} {es es' vs : List Json} {batch batch' : Batch}

/-- Every entry is a test of the batch or a warning of it, in the order of the entries. -/
inductive Sorts (r : Registry) : List Json → Batch → Prop
  | nil : Sorts r [] ⟨[], []⟩
  | test {entry : Json} {rest : List Json} {t : ItemTest} {batch : Batch}
      (ht : compile r entry = .ok t) (hrest : Sorts r rest batch) :
      Sorts r (entry :: rest) ⟨t :: batch.tests, batch.diagnostics⟩
  | warning {entry : Json} {rest : List Json} {e : CompileError} {batch : Batch}
      (he : compile r entry = .error (.compile e)) (hrest : Sorts r rest batch) :
      Sorts r (entry :: rest) ⟨batch.tests, .skipped e :: batch.diagnostics⟩

theorem sorts_cons_iff {entry : Json} : Sorts r (entry :: es) batch ↔
    ∃ a b, compileEntry r entry = .ok a ∧ Sorts r es b ∧ batch = a.append b := by
  constructor
  · intro h
    cases h with
    | test ht hrest => exact ⟨_, _, compileEntry_eq_test_iff.2 ht, hrest, rfl⟩
    | @warning _ _ e b he hrest =>
      have hentry : compileEntry r entry = .ok ⟨[], [.skipped e]⟩ := by simp [compileEntry, he]
      exact ⟨_, _, hentry, hrest, rfl⟩
  · rintro ⟨a, b, ha, hb, rfl⟩
    unfold compileEntry at ha
    split at ha
    case h_1 t ht =>
      cases ha
      exact .test ht hb
    case h_2 e he =>
      cases ha
      exact .warning he hb
    case h_3 => cases ha

theorem compileEntries_eq_ok_iff_sorts : compileEntries r es = .ok batch ↔ Sorts r es batch := by
  induction es generalizing batch with
  | nil =>
    constructor
    · intro h
      cases h
      exact .nil
    · rintro ⟨⟩
      rfl
  | cons entry rest ih =>
    simp only [compileEntries, Except.bind_eq_ok_iff, sorts_cons_iff, ih]
    constructor
    · rintro ⟨a, ha, b, hb, hbatch⟩
      exact ⟨a, b, ha, hb, (Except.ok.inj hbatch).symm⟩
    · rintro ⟨a, b, ha, hb, rfl⟩
      exact ⟨a, ha, b, hb, rfl⟩

namespace Sorts

theorem length_add_length (h : Sorts r es batch) :
    batch.tests.length + batch.diagnostics.length = es.length := by
  induction h with
  | nil => rfl
  | @test _ rest _ batch _ _ ih =>
    change batch.tests.length + 1 + batch.diagnostics.length = rest.length + 1
    omega
  | @warning _ rest _ batch _ _ ih =>
    change batch.tests.length + (batch.diagnostics.length + 1) = rest.length + 1
    omega

theorem level_eq_warning (h : Sorts r es batch) : ∀ w ∈ batch.diagnostics, w.level = .warning := by
  induction h with
  | nil => exact fun w hw => absurd hw List.not_mem_nil
  | test _ _ ih => exact ih
  | warning _ _ ih => exact List.forall_mem_cons.2 ⟨rfl, ih⟩

theorem eq_filterMap (h : Sorts r es batch) :
    batch = ⟨es.filterMap (testOf? r), es.filterMap (warningOf? r)⟩ :=
  ((compileEntries_eq_ok_iff r).1 (compileEntries_eq_ok_iff_sorts.2 h)).2

end Sorts

theorem compileAll_append_of_eq_ok (h : compileAll r vs = .ok batch) (us : List Json) :
    compileAll r (vs ++ us) = (compileAll r us).map batch.append := by
  rw [compileAll_append, h]
  cases compileAll r us <;> rfl

/-- What becomes of the entries of a list of descriptors. -/
structure Accounts (r : Registry) (es : List Json) (batch : Batch) : Prop where
  sorts : Sorts r es batch
  count : batch.tests.length + batch.diagnostics.length = es.length
  warnings : ∀ w ∈ batch.diagnostics, w.level = .warning
  tests_eq : batch.tests = es.filterMap (testOf? r)
  diagnostics_eq : batch.diagnostics = es.filterMap (warningOf? r)

/-- Of a list for which compiling comes to an end, each entry is a test or a warning. What follows
it has no influence on its own batch. -/
theorem compileAll_sorts (h : compileAll r vs = .ok batch) :
    Accounts r (vs.flatMap entriesOf) batch ∧
      ∀ us, compileAll r (vs ++ us) = (compileAll r us).map batch.append := by
  rw [compileAll_eq] at h
  have hsorts := compileEntries_eq_ok_iff_sorts.1 h
  obtain rfl := hsorts.eq_filterMap
  refine ⟨⟨hsorts, hsorts.length_add_length, hsorts.level_eq_warning, rfl, rfl⟩, ?_⟩
  exact compileAll_append_of_eq_ok (by rwa [compileAll_eq])

/-- A stick, then a list of an unknown item, a list, and another stick, then text that is no
JSON. -/
def mixedDescriptors : List Json :=
  [.str "stick@2", .arr [.str "twig", .arr [], .obj [("item", .str "stick")]], .str "[stick"]

def mixedBatch : Batch where
  tests := [.compact "minecraft:stick" (some 2) none, .fields { item := some "minecraft:stick" }]
  diagnostics := [.skipped (.unknownItem "twig"), .skipped (.wrongKind .item (.arr [])),
    .skipped (.badJson "[stick" .value)]

theorem compileAll_sorts_mixed :
    compileAll sticks mixedDescriptors = .ok mixedBatch ∧
      Accounts sticks (mixedDescriptors.flatMap entriesOf) mixedBatch ∧
      ∀ us, compileAll sticks (mixedDescriptors ++ us) =
        (compileAll sticks us).map mixedBatch.append :=
  have h : compileAll sticks mixedDescriptors = .ok mixedBatch := by with_unfolding_all rfl
  ⟨h, compileAll_sorts h⟩

end RuleGate.ItemTest
