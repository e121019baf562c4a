import RuleGate.Rule.Match

/-!
# Matching as a conjunction

An event matches a rule exactly when every check of the rule passes, where a check without an
answer does not pass (`isMatch_eq_all`). So a rule that is put together from others matches where
all of them do. That a single name or block is asked by itself makes no difference to a check
(`Check.isOneOf_eq`, `Check.isOneOfBlocks_eq`).
-/

namespace RuleGate

variable (i : Integrations) (e : Event) (draw : Number)

/-- Whether a check holds; one without an answer does not. -/
def CompiledCheck.passes (c : CompiledCheck) : Bool :=
  match c.check.holds i e draw with
  | .ok b => b
  | .error _ => false

namespace Check

theorem isOneOf_eq (names : List Text) (name : Text) :
    isOneOf names name = names.any (name = ·) := by
  unfold isOneOf
  split
  · simp
  · rw [List.any_eq]
    simp

theorem isOneOfBlocks_eq (w : World) (pos : BlockPos) (wanted : List (List BlockTest)) :
    isOneOfBlocks w pos wanted = wanted.anyM (BlockTest.allHold w pos) := by
  unfold isOneOfBlocks
  split
  case h_1 only =>
    rw [List.anyM_cons]
    rcases BlockTest.allHold w pos only with f | _ | _ <;> rfl
  case h_2 => rfl

theorem biomeHolds_eq (names : List Text) (w : World) (pos : BlockPos) :
    biomeHolds i names w pos = names.any fun name =>
      (w.biomeAt pos).id = name || i.biomeName? (w.biomeAt pos) = some name := by
  rw [Bool.eq_iff_iff]
  simp only [biomeHolds, isOneOf_eq, Bool.or_eq_true, List.any_eq_true, decide_eq_true_iff]
  cases i.biomeName? (w.biomeAt pos) with
  | none => simp
  | some shown =>
    simp only [Option.some.injEq, List.any_eq_true, decide_eq_true_iff, ← exists_or, ← and_or_left]

end Check

theorem Check.holds_of_not_draws {c : Check} (h : c.draws = false) (draw' : Number) :
    c.holds i e draw = c.holds i e draw' := by
  cases c with
  | random chance => cases h
  | _ => rfl

namespace Rule

theorem run_congr {i' : Integrations} {e' : Event} {rule : Rule}
    (h : ∀ c ∈ rule, ∀ draw, c.check.holds i e draw = c.check.holds i' e' draw)
    (source : Nat → Number) (used : Nat) :
    run i e source used rule = run i' e' source used rule := by
  induction rule generalizing used with
  | nil => rfl
  | cons c rest ih =>
    obtain ⟨hc, hrest⟩ := List.forall_mem_cons.1 h
    have hholds : c.holds i e source used = c.holds i' e' source used := hc (source used)
    unfold run
    rw [hholds]
    split
    · exact ih hrest _
    · rfl
    · rfl

theorem run_of_not_draws {rule : Rule} (h : ∀ c ∈ rule, c.check.draws = false)
    (source source' : Nat → Number) (used used' : Nat) :
    (run i e source used rule).1 = (run i e source' used' rule).1 := by
  induction rule generalizing used used' with
  | nil => rfl
  | cons c rest ih =>
    obtain ⟨hc, hrest⟩ := List.forall_mem_cons.1 h
    have hholds : c.holds i e source used = c.holds i e source' used' :=
      Check.holds_of_not_draws i e _ hc _
    unfold run
    rw [hholds]
    split
    · exact ih hrest _ _
    · rfl
    · rfl

theorem used_run_of_not_draws {rule : Rule} (h : ∀ c ∈ rule, c.check.draws = false)
    (source : Nat → Number) (used : Nat) : (run i e source used rule).2 = used := by
  induction rule with
  | nil => rfl
  | cons c rest ih =>
    obtain ⟨hc, hrest⟩ := List.forall_mem_cons.1 h
    have hused : c.usedAfter used = used := by simp [CompiledCheck.usedAfter, hc]
    unfold run
    rw [hused]
    split
    · exact ih hrest
    · rfl
    · rfl

theorem matched_run (rule : Rule) (used : Nat) :
    (run i e (fun _ => draw) used rule).1.matched = rule.all fun c => c.passes i e draw := by
  induction rule generalizing used with
  | nil => rfl
  | cons c rest ih =>
    have hc : c.holds i e (fun _ => draw) used = c.check.holds i e draw := rfl
    cases h : c.check.holds i e draw with
    | error f => simp [run, hc, h, CompiledCheck.passes]
    | ok b => cases b <;> simp [run, hc, h, CompiledCheck.passes, ih]

theorem isMatch_eq_all (rule : Rule) :
    rule.isMatch i e draw = rule.all fun c => c.passes i e draw :=
  matched_run i e draw rule 0

theorem isMatch_singleton_iff {k : Key} {c : Check} :
    isMatch i e draw [⟨k, c⟩] = true ↔ c.holds i e draw = .ok true := by
  rw [isMatch_eq_all, List.all_cons, List.all_nil, Bool.and_true, CompiledCheck.passes]
  cases c.holds i e draw <;> simp

theorem isMatch_flatMap {α : Type} (l : List α) (f : α → Rule) :
    isMatch i e draw (l.flatMap f) = l.all fun a => (f a).isMatch i e draw := by
  simp only [isMatch_eq_all, List.all_flatMap]

end Rule
end RuleGate
