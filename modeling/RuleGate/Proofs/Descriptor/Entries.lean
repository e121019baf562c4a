import RuleGate.Proofs.Descriptor.Items

/-!
# Entries of item descriptors

A list of descriptors stands for its entries: those of its members that are lists are expanded
(`ItemTest.compileAll_eq`). Unless compiling is stuck on some entry, the tests are those of the
entries that compile, and there is a warning for every other
(`ItemTest.compileEntries_eq_ok_iff`). So nothing comes of a list only if it has no entries
(`ItemTest.nothing_of_entries_iff`).
-/

namespace RuleGate.ItemTest

open Failure

variable (r : Registry)

/-- The entries that a descriptor stands for; one that cannot be decoded stands for itself. -/
def entriesOf (raw : Json) : List Json :=
  match Descriptor.decode raw with
  | .ok (.arr entries) => entries
  | .ok v => [v]
  | .error _ => [raw]

def testOf? (entry : Json) : Option ItemTest :=
  (compile r entry).toOption

def warningOf? (entry : Json) : Option Diagnostic :=
  match compile r entry with
  | .error (.compile e) => some (.skipped e)
  | _ => none

theorem filterMap_testOf?_eq_nil_iff {es : List Json} :
    es.filterMap (testOf? r) = [] ↔ ¬ ∃ entry ∈ es, ∃ t, compile r entry = .ok t := by
  rw [List.filterMap_eq_nil_iff]
  simp only [not_exists, not_and]
  refine forall₂_congr fun entry _ => ?_
  unfold testOf?
  cases compile r entry <;> simp [Except.toOption]

theorem entriesOf_eq_nil_iff {raw : Json} :
    entriesOf raw = [] ↔ Descriptor.decode raw = .ok (.arr []) := by
  unfold entriesOf
  cases Descriptor.decode raw with
  | error e => simp
  | ok v => cases v <;> simp

theorem compileEntry_eq_ok_iff {entry : Json} {batch : Batch} :
    compileEntry r entry = .ok batch ↔ ¬ Stuck (compile r entry) ∧
      batch = ⟨(testOf? r entry).toList, (warningOf? r entry).toList⟩ := by
  unfold compileEntry testOf? warningOf?
  rcases compile r entry with (e | f) | t <;> simp [Except.toOption, eq_comm]

theorem compileEntries_eq_ok_iff {es : List Json} {batch : Batch} :
    compileEntries r es = .ok batch ↔ (∀ entry ∈ es, ¬ Stuck (compile r entry)) ∧
      batch = ⟨es.filterMap (testOf? r), es.filterMap (warningOf? r)⟩ := by
  induction es generalizing batch with
  | nil => simp [compileEntries, eq_comm]
  | cons entry rest ih =>
    have happend : Batch.append ⟨(testOf? r entry).toList, (warningOf? r entry).toList⟩
        ⟨rest.filterMap (testOf? r), rest.filterMap (warningOf? r)⟩ =
        ⟨(entry :: rest).filterMap (testOf? r), (entry :: rest).filterMap (warningOf? r)⟩ := by
      unfold Batch.append
      cases ht : testOf? r entry <;> cases hw : warningOf? r entry <;> simp [ht, hw]
    simp only [compileEntries, Except.bind_eq_ok_iff, compileEntry_eq_ok_iff, ih,
      List.forall_mem_cons]
    constructor
    · rintro ⟨_, ⟨hentry, rfl⟩, _, ⟨hrest, rfl⟩, hbatch⟩
      exact ⟨⟨hentry, hrest⟩, by rw [← happend]; exact (Except.ok.inj hbatch).symm⟩
    · rintro ⟨⟨hentry, hrest⟩, rfl⟩
      exact ⟨_, ⟨hentry, rfl⟩, _, ⟨hrest, rfl⟩, congrArg Except.ok happend⟩

theorem compileEntries_eq_error_iff {es : List Json} :
    (∃ f, compileEntries r es = .error f) ↔ ∃ entry ∈ es, Stuck (compile r entry) := by
  rw [Except.exists_eq_error_iff]
  simp only [compileEntries_eq_ok_iff, exists_and_left, exists_eq, and_true]
  simp

theorem compileEntries_append (xs ys : List Json) :
    compileEntries r (xs ++ ys) = (do
      let a ← compileEntries r xs
      let b ← compileEntries r ys
      return a.append b) := by
  induction xs with
  | nil => cases h : compileEntries r ys <;> simp [compileEntries, h, Batch.append]
  | cons x rest ih =>
    rw [List.cons_append, compileEntries, compileEntries, ih]
    cases compileEntry r x with
    | error f => rfl
    | ok a =>
      cases compileEntries r rest with
      | error f => rfl
      | ok b =>
        cases compileEntries r ys with
        | error f => rfl
        | ok c => simp [Batch.append]

theorem compileEntries_singleton (entry : Json) :
    compileEntries r [entry] = compileEntry r entry := by
  cases h : compileEntry r entry <;> simp [compileEntries, h, Batch.append]

theorem compileExpanded_eq (raw : Json) :
    compileExpanded r raw = compileEntries r (entriesOf raw) := by
  unfold compileExpanded entriesOf
  cases hd : Descriptor.decode raw with
  | ok v => cases v <;> simp only [compileEntries_singleton]
  | error e =>
    -- what cannot be decoded is an entry that fails in the same way
    have hcompile : compile r raw = .error e := by simp [compile, hd]
    simp only [compileEntries_singleton, compileEntry, hcompile]
    cases e <;> rfl

theorem compileAll_eq (vs : List Json) :
    compileAll r vs = compileEntries r (vs.flatMap entriesOf) := by
  induction vs with
  | nil => rfl
  | cons raw rest ih =>
    rw [List.flatMap_cons, compileEntries_append, compileAll, compileExpanded_eq, ih]

/-- An entry that compiles, or that is left out and has a warning in the report. -/
def Accounted (reported : List Diagnostic) (entry : Json) : Prop :=
  (∃ t, compile r entry = .ok t) ∨
    ∃ e, compile r entry = .error (.compile e) ∧ .skipped e ∈ reported

theorem Accounted.mono {r : Registry} {reported more : List Diagnostic} {entry : Json}
    (h : Accounted r reported entry) (hsub : reported ⊆ more) : Accounted r more entry :=
  h.imp_right fun ⟨e, he, hmem⟩ => ⟨e, he, hsub hmem⟩

theorem accounted_of_not_stuck {es : List Json} {entry : Json} (hmem : entry ∈ es)
    (hstuck : ¬ Stuck (compile r entry)) : Accounted r (es.filterMap (warningOf? r)) entry := by
  rcases h : compile r entry with (e | f) | t
  · exact .inr ⟨e, h, List.mem_filterMap.2 ⟨entry, hmem, by simp only [warningOf?, h]⟩⟩
  · exact absurd ⟨f, h⟩ hstuck
  · exact .inl ⟨t, h⟩

/-- Only no entries at all leave neither a test nor a warning. -/
theorem nothing_of_entries_iff {es : List Json} (hstuck : ∀ entry ∈ es, ¬ Stuck (compile r entry)) :
    es.filterMap (testOf? r) = [] ∧ es.filterMap (warningOf? r) = [] ↔ es = [] := by
  constructor
  · rintro ⟨htests, hwarnings⟩
    cases es with
    | nil => rfl
    | cons entry rest =>
      have hentry : entry ∈ entry :: rest := List.mem_cons_self
      rcases accounted_of_not_stuck r hentry (hstuck entry hentry) with ht | ⟨e, _, hmem⟩
      · exact absurd ⟨entry, hentry, ht⟩ ((filterMap_testOf?_eq_nil_iff r).1 htests)
      · simp [hwarnings] at hmem
  · rintro rfl
    exact ⟨rfl, rfl⟩

end RuleGate.ItemTest
