import RuleGate.Command.Report

/-!
# Commands

What the program does: list the keys, compile the rules of a file, or evaluate them against the
event of a snapshot. The result is what is printed, in order, and how the program ends. Rules are
treated one by one; only the random numbers run on from each to the next.
-/

namespace RuleGate

structure Settings where
  /-- The capabilities of a snapshot that lists none. -/
  capabilities : List Capability := []

inductive Command
  | keys
  | compile (rules : Text) (snapshot : Option Text)
  | evaluate (rules snapshot : Text)

def Command.paths : Command → List Text
  | keys => []
  | compile rules snapshot => rules :: snapshot.toList
  | evaluate rules snapshot => [rules, snapshot]

/-- Why a command line runs no command: it cannot be read, or it asks for help. -/
inductive Refusal
  | usage | help
  deriving DecidableEq, Repr

def Refusal.code : Refusal → Nat
  | usage => 2
  | help => 0

inductive Ending
  | exit (code : Nat)
  | refused (r : Refusal)
  | load (e : LoadError)
  | number (f : NumberFault)
  | unknownLevel (level : Text)

structure Session where
  printed : List Printed
  ending : Ending

namespace Session

def exit (code : Nat) : Session := ⟨[], .exit code⟩

/-- An error that is reported, and ends the program with its own code. -/
def refuse (message : Text) : Session := ⟨[.error message], .exit 2⟩

def ofLoadError (e : LoadError) : Session :=
  if e.isReported then refuse e.message else ⟨[], .load e⟩

def withPrinted (p : Printed) (s : Session) : Session :=
  { s with printed := p :: s.printed }

end Session

namespace Command

def keyTable : Printed :=
  .keyTable ((List.range' 1 Key.checkOrder.length).zip Key.checkOrder) .blockOffset .block

/-- The attributes of a rule compiled, with everything there is to report. -/
def compileRule (s : Snapshot) (fields : Fields) : Except NumberFault (Rule × List Diagnostic) := do
  let (attributes, reported) := RuleAttributes.ofFields fields
  let (rule, more) ← Rule.compile s.registry (.tables s.integrations) attributes
  return (rule, reported ++ more)

def compileEach (s : Snapshot) (failed : Bool) : List (Text × Fields) → Session
  | [] => .exit (if failed then 1 else 0)
  | (name, fields) :: rest =>
    match compileRule s fields with
    | .error f => ⟨[], .number f⟩
    | .ok (rule, diagnostics) =>
      let report : Report := ⟨name, none, rule.keys, diagnostics⟩
      (compileEach s (failed || !report.errors.isEmpty) rest).withPrinted (.report report)

def evaluateEach (s : Snapshot) (e : Event) (source : Nat → Number) (used : Nat) :
    List (Text × Fields) → Session
  | [] => .exit 0
  | (name, fields) :: rest =>
    match compileRule s fields with
    | .error f => ⟨[], .number f⟩
    | .ok (rule, diagnostics) =>
      let (verdict, used) := rule.run (.tables s.integrations) e source used
      let report : Report := ⟨name, some verdict.matched, rule.keys, diagnostics⟩
      (evaluateEach s e source used rest).withPrinted (.report report)

def snapshotFor (settings : Settings) (files : Files) : Option Text → Except LoadError Snapshot
  | some path => Document.loadSnapshot settings.capabilities files path
  | none =>
    (Document.snapshotOf settings.capabilities (.obj [])).mapError (LoadError.mk .snapshot "")

def withRules (files : Files) (path : Text) (f : List (Text × Fields) → Session) : Session :=
  match Document.loadRules files path with
  | .ok rules => f rules
  | .error e => .ofLoadError e

/-- The snapshot is read first; the rules are read only if it serves. -/
def run (settings : Settings) (files : Files) (source : Nat → Number) : Command → Session
  | keys => ⟨[keyTable], .exit 0⟩
  | compile rules snapshot =>
    match snapshotFor settings files snapshot with
    | .error e => .ofLoadError e
    | .ok s => withRules files rules (compileEach s false)
  | evaluate rules snapshot =>
    match snapshotFor settings files (some snapshot) with
    | .error e => .ofLoadError e
    | .ok s =>
      match s.event with
      | none => .refuse ("Snapshot " ++ snapshot ++ " has no 'event' section")
      | some e => withRules files rules (evaluateEach s e source 0)

end Command

end RuleGate
