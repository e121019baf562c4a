import RuleGate.Rule.Compile

/-!
# Matching a rule

Checks are run in order up to the first that does not hold. One without an answer counts as not
holding, and the verdict names its key. Random numbers come from an endless source; the state is
how many of them have been used.
-/

namespace RuleGate

structure Verdict where
  matched : Bool
  /-- The key of the check that had no answer. -/
  failed : Option Key
  deriving DecidableEq, Repr

variable (i : Integrations) (e : Event) (source : Nat → Number)

namespace CompiledCheck

def holds (c : CompiledCheck) (used : Nat) : Except NumberFault Bool :=
  c.check.holds i e (source used)

def usedAfter (c : CompiledCheck) (used : Nat) : Nat :=
  if c.check.draws then used + 1 else used

end CompiledCheck

namespace Rule

def run (used : Nat) : Rule → Verdict × Nat
  | [] => (⟨true, none⟩, used)
  | c :: rest =>
    match c.holds i e source used with
    | .ok true => run (c.usedAfter used) rest
    | .ok false => (⟨false, none⟩, c.usedAfter used)
    | .error _ => (⟨false, some c.key⟩, c.usedAfter used)

/-- Whether an event matches a rule, the next random number being the given one. -/
def isMatch (draw : Number) (rule : Rule) : Bool :=
  (run i e (fun _ => draw) 0 rule).1.matched

/-- The answer of every check by itself. -/
def runEach (used : Nat) : Rule → List (Except NumberFault Bool) × Nat
  | [] => ([], used)
  | c :: rest =>
    let (answers, used') := runEach (c.usedAfter used) rest
    (c.holds i e source used :: answers, used')

end Rule
end RuleGate
