import RuleGate.Proofs.Descriptor.Entries
import RuleGate.Proofs.World.ResourceName

/-!
# Descriptors that are read once

An item that is a member of a list may be decoded twice: once to see whether it is a list itself,
and once when it is compiled. On a *settled* descriptor this makes no difference, so whether a list
of settled descriptors is expanded or only gone through, the same tests come of it
(`ItemTest.testsOfAll_of_settled`). Objects are settled, and so are names.
-/

namespace RuleGate

namespace Descriptor

/-- What it decodes to is no list and decodes to itself. -/
def Settled (raw : Json) : Prop :=
  ∀ v, decode raw = .ok v → decode v = .ok v ∧ ∀ vs, v ≠ .arr vs

theorem settled_obj (fields : Fields) : Settled (.obj fields) := by
  intro v hv
  obtain rfl := Except.ok.inj hv
  exact ⟨rfl, fun _ h => by cases h⟩

theorem settled_name {s : Text} (h : looksLikeJson (Text.strip s) = false) : Settled (.str s) := by
  intro v hv
  have hbare : Text.strip (Text.strip s) = Text.strip s := Text.trim_trim _ s
  rw [decode, decodeText, h] at hv
  obtain rfl := Except.ok.inj hv
  refine ⟨?_, fun _ h => by cases h⟩
  rw [decode, decodeText, hbare, h]
  rfl

end Descriptor

namespace ItemTest

open Descriptor (Settled)

variable (r : Registry)

theorem compileAll_append (xs ys : List Json) :
    compileAll r (xs ++ ys) = (do
      let a ← compileAll r xs
      let b ← compileAll r ys
      return a.append b) := by
  rw [compileAll_eq, List.flatMap_append, compileEntries_append, ← compileAll_eq, ← compileAll_eq]

theorem compileAll_singleton (raw : Json) : compileAll r [raw] = compileExpanded r raw := by
  rw [compileAll_eq, List.flatMap_singleton, compileExpanded_eq]

/-- The tests of a list of descriptors, whatever the warnings are. -/
def testsOfAll (vs : List Json) : Except NumberFault (List ItemTest) :=
  (compileAll r vs).map Batch.tests

theorem map_tests_append (x y : Except NumberFault Batch) :
    (do let a ← x; let b ← y; return a.append b : Except NumberFault Batch).map Batch.tests = (do
      let a ← x.map Batch.tests
      let b ← y.map Batch.tests
      return a ++ b) := by
  cases x with
  | error f => rfl
  | ok a => cases y <;> rfl

theorem testsOfAll_append (xs ys : List Json) :
    testsOfAll r (xs ++ ys) = (do
      let a ← testsOfAll r xs
      let b ← testsOfAll r ys
      return a ++ b) := by
  rw [testsOfAll, compileAll_append, map_tests_append]
  rfl

theorem map_tests_compileExpanded {raw : Json} (h : Settled raw) :
    (compileExpanded r raw).map Batch.tests = (compileEntry r raw).map Batch.tests := by
  unfold compileExpanded
  rcases hd : Descriptor.decode raw with (e | f) | v
  · simp [compileEntry, compile, hd]
  · simp [compileEntry, compile, hd]
  · obtain ⟨hv, hlist⟩ := h v hd
    cases v with
    | arr vs => exact absurd rfl (hlist vs)
    | str name | obj fields => simp only [compileEntry, compile, hd, hv, Except.ok_bind]
    -- neither is an item, whatever the warning says of it
    | _ => simp [compileEntry, compile, hd, hv, Except.map]

theorem testsOfAll_of_settled {es : List Json} (h : ∀ e ∈ es, Settled e) :
    testsOfAll r es = (compileEntries r es).map Batch.tests := by
  induction es with
  | nil => rfl
  | cons e rest ih =>
    obtain ⟨he, hrest⟩ := List.forall_mem_cons.1 h
    rw [testsOfAll, compileAll, compileEntries, map_tests_append, map_tests_append,
      map_tests_compileExpanded r he, ← ih hrest, testsOfAll]

end ItemTest
end RuleGate
