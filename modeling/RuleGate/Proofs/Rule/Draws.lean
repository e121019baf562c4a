import RuleGate.Proofs.Lists
import RuleGate.Proofs.Rule.Kinds
import RuleGate.Proofs.Rule.Matching

/-!
# Random numbers over a run of events

The key `random` comes first of all keys, needs no integration and always comes to a check. So a
rule with a chance is the rule without it behind the check of that chance (`Rule.compile_chance`),
and only that check uses up numbers. One event thus costs one number where there is a chance and
none elsewhere, whatever the other checks answer; over many events, each has the number of its own
place (`Rule.compile_drawsOnce`).
-/

namespace RuleGate

/-- The verdict where an event is let through to it; else a check has not held. -/
def Verdict.behind (v : Verdict) (passes : Bool) : Verdict :=
  if passes then v else ⟨false, none⟩

theorem Verdict.matched_behind (v : Verdict) (passes : Bool) :
    (v.behind passes).matched = (passes && v.matched) := by
  cases passes <;> rfl

namespace Rule

def ofChance : Option Double → Rule
  | some c => [⟨.random, .random c⟩]
  | none => []

def passesChance (chance : Option Double) (draw : Number) : Bool :=
  chance.all fun c => draw.lt (.float c)

theorem keys_ofChance (chance : Option Double) :
    keys (ofChance chance) = if chance.isSome then [.random] else [] := by
  cases chance <;> rfl

section Compile

variable (r : Registry) (i : Integrations) (a : RuleAttributes)

theorem compileKey_random :
    compileKey r i a .random = .ok ⟨(a.get? .random).map Check.random, []⟩ := by
  have hget : a.get? .random = (a.getList .random).head? := rfl
  by_cases hhas : a.has .random
  · obtain ⟨chance, rest, hvalues⟩ :=
      List.exists_cons_of_ne_nil (Attributes.has_eq_true_iff.1 hhas)
    rw [compileKey_of_not_missing r i a hhas rfl, hget, Check.compile, hvalues]
    rfl
  · have hvalues : a.getList .random = [] := by
      rwa [Attributes.has_eq_true_iff, not_not] at hhas
    rw [compileKey_of_not_has r i a (Bool.eq_false_iff.2 hhas), hget, hvalues]
    rfl

/-- A chance is the first check, and nothing else of a rule or its report depends on it. -/
theorem compile_chance :
    compile r i a = (compile r i (a.without .random)).map fun out =>
      (ofChance (a.get? .random) ++ out.1, out.2) := by
  have horder : Key.checkOrder = .random :: Key.checkOrder.tail := rfl
  have hothers : compileKeys r i (a.without .random) Key.checkOrder.tail =
      compileKeys r i a Key.checkOrder.tail := by
    refine compileKeys_congr r i _ fun k hk => ?_
    have hne : k ≠ .random := ne_of_mem_of_not_mem hk (by decide)
    exact compileKey_congr r i _ (a.getList_without_of_ne hne) fun _ => rfl
  rw [compile, compile, horder, compileKeys, compileKeys, compileKey_random,
    compileKey_of_not_has r i _ (a.has_without_self .random), hothers]
  cases compileKeys r i a Key.checkOrder.tail with
  | error f => rfl
  | ok out => cases a.get? .random <;> rfl

variable {r i a} {rest : Rule} {reported : List Diagnostic}

theorem key_ne_random (h : compile r i (a.without .random) = .ok (rest, reported)) :
    ∀ c ∈ rest, c.key ≠ .random := by
  intro c hc hkey
  have hhas := (has_and_mem_origins r i _ h hc).1
  rw [hkey, a.has_without_self] at hhas
  cases hhas

theorem not_draws_without_random (h : compile r i (a.without .random) = .ok (rest, reported)) :
    ∀ c ∈ rest, c.check.draws = false := fun c hc =>
  Check.draws_eq_false_of_mem_origins (has_and_mem_origins r i _ h hc).2 (key_ne_random h c hc)

theorem random_mem_keys_iff (h : compile r i (a.without .random) = .ok (rest, reported))
    (chance : Option Double) : .random ∈ keys (ofChance chance ++ rest) ↔ chance.isSome := by
  have hrest : .random ∉ keys rest := fun hmem => by
    obtain ⟨c, hc, hkey⟩ := List.mem_map.1 hmem
    exact key_ne_random h c hc hkey
  rw [keys_append, List.mem_append, or_iff_left hrest, keys_ofChance]
  cases chance <;> simp

end Compile

section Run

variable (i : Integrations) (source : Nat → Number)

/-- The verdicts on events one after another, and how many numbers have been used after them. -/
def runAll (used : Nat) (rule : Rule) : List Event → List Verdict × Nat
  | [] => ([], used)
  | e :: events =>
    let (verdict, used) := run i e source used rule
    let (verdicts, used) := runAll used rule events
    (verdict :: verdicts, used)

variable {rest : Rule} (hrest : ∀ c ∈ rest, c.check.draws = false)
include hrest

/-- One event: a number is used up for the chance alone, whatever the other checks answer. -/
theorem run_ofChance_append (chance : Option Double) (e : Event) (used : Nat)
    (source' : Nat → Number) (used' : Nat) :
    run i e source used (ofChance chance ++ rest) =
      ((run i e source' used' rest).1.behind (passesChance chance (source used)),
        used + if chance.isSome then 1 else 0) := by
  have hrun (n : Nat) : run i e source n rest = ((run i e source' used' rest).1, n) :=
    Prod.ext (run_of_not_draws i e hrest source source' n used')
      (used_run_of_not_draws i e hrest source n)
  cases chance with
  | none => exact hrun used
  | some c =>
    have hholds : CompiledCheck.holds i e source ⟨.random, .random c⟩ used =
        .ok (passesChance (some c) (source used)) := rfl
    rw [ofChance, List.singleton_append, run, hholds]
    cases passesChance (some c) (source used) with
    | true => exact hrun (used + 1)
    | false => rfl

/-- The n-th event after the first has the n-th number after the first. -/
theorem runAll_ofChance_append (chance : Option Double) (events : List Event) (used : Nat)
    (source' : Nat → Number) (used' : Nat) :
    runAll i source used (ofChance chance ++ rest) events =
      (events.mapIdx fun n e =>
          (run i e source' used' rest).1.behind (passesChance chance (source (used + n))),
        used + if chance.isSome then events.length else 0) := by
  induction events generalizing used with
  | nil => simp [runAll]
  | cons e events ih =>
    rw [runAll, run_ofChance_append i source hrest chance e used source' used']
    dsimp only
    rw [ih, List.mapIdx_cons]
    cases chance with
    | none => rfl
    | some c =>
      simp only [Option.isSome_some, if_true, List.length_cons, Nat.add_zero,
        Nat.add_assoc, Nat.add_comm 1]

end Run

/-- What events cost a rule in random numbers, and what they come to, the rest being the rule
without its chance. -/
structure DrawsOnce (i : Integrations) (chance : Option Double) (rule rest : Rule) : Prop where
  /-- Each event uses up one number or none, whatever the checks answer to it. -/
  used_eq : ∀ source used events, (runAll i source used rule events).2 =
    used + if .random ∈ rule.keys then events.length else 0
  matched_eq : ∀ source used events draw,
    (runAll i source used rule events).1.map Verdict.matched = events.mapIdx fun n e =>
      passesChance chance (source (used + n)) && rest.isMatch i e draw
  /-- Nor does a check without an answer, which a verdict names, hold anything up. -/
  verdicts_eq : ∀ source used events source' used',
    (runAll i source used rule events).1 = events.mapIdx fun n e =>
      (run i e source' used' rest).1.behind (passesChance chance (source (used + n)))

variable {r : Registry} {i : Integrations} {a : RuleAttributes} {rule : Rule}
  {reported : List Diagnostic}

theorem drawsOnce_ofChance_append {rest : Rule}
    (h : compile r i (a.without .random) = .ok (rest, reported)) (chance : Option Double) :
    DrawsOnce i chance (ofChance chance ++ rest) rest where
  used_eq source used events := by
    rw [runAll_ofChance_append i source (not_draws_without_random h) chance events used source used]
    simp only [random_mem_keys_iff h]
  matched_eq source used events draw := by
    rw [runAll_ofChance_append i source (not_draws_without_random h) chance events used
      (fun _ => draw) 0]
    dsimp only
    rw [List.map_mapIdx]
    simp only [Verdict.matched_behind]
    rfl
  verdicts_eq source used events source' used' := by
    rw [runAll_ofChance_append i source (not_draws_without_random h) chance events used source'
      used']

/-- A rule with a chance draws one number for each event, any other rule none. An event matches
when its number is less than the chance, if there is one, and it matches the rule without it. -/
theorem compile_drawsOnce (h : compile r i a = .ok (rule, reported)) :
    ∃ rest, compile r i (a.without .random) = .ok (rest, reported) ∧
      (.random ∈ rule.keys ↔ a.has .random) ∧ DrawsOnce i (a.get? .random) rule rest := by
  rw [compile_chance] at h
  obtain ⟨⟨rest, reported'⟩, hrest, hout⟩ := Except.map_eq_ok_iff.1 h
  obtain ⟨rfl, rfl⟩ := Prod.mk.inj hout
  have hhas : a.has .random ↔ (a.get? .random).isSome :=
    Attributes.has_eq_true_iff.trans List.isSome_head?.symm
  exact ⟨rest, hrest, (random_mem_keys_iff hrest _).trans hhas.symm,
    drawsOnce_ofChance_append hrest _⟩

/-- An even chance, high enough. -/
def heightLottery : RuleAttributes :=
  .ofAdditions [⟨.minHeight, (60 : Int)⟩, ⟨.random, Double.ofRatio false 1 2⟩]

def lotteryRule : Rule :=
  [⟨.random, .random (.ofRatio false 1 2)⟩, ⟨.minHeight, .height .atLeast 60⟩]

/-- Two numbers below the chance, then numbers above it. -/
def lotteryNumbers (n : Nat) : Number :=
  .float (.ofRatio false (if n < 2 then 1 else 3) 4)

theorem compile_drawsOnce_lottery :
    compile ⟨[], [], []⟩ .absent heightLottery = .ok (lotteryRule, []) ∧
    ∃ rest, compile ⟨[], [], []⟩ .absent (heightLottery.without .random) = .ok (rest, []) ∧
      DrawsOnce .absent (heightLottery.get? .random) lotteryRule rest ∧
      runAll .absent lotteryNumbers 0 lotteryRule
          [{ pos := some ⟨0, 64, 0⟩ }, { pos := some ⟨0, 10, 0⟩ }, { pos := some ⟨0, 64, 0⟩ }] =
        ([⟨true, none⟩, ⟨false, none⟩, ⟨false, none⟩], 3) := by
  have hcompile : compile ⟨[], [], []⟩ .absent heightLottery = .ok (lotteryRule, []) := rfl
  obtain ⟨rest, hrest, _, hdraws⟩ := compile_drawsOnce hcompile
  exact ⟨hcompile, rest, hrest, hdraws, by decide +kernel⟩

end Rule
end RuleGate
