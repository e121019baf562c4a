import RuleGate.Command.Run
import RuleGate.Text.Uppercase

/-!
# Command lines

A command line is an option of the program, a command and the arguments of the command, among
which may be an option of its own. An option takes a value, written after it or with an equals
sign, and the last value counts. After two dashes alone nothing is an option any more. The level of
the log is settled before the arguments of the command are looked at.
-/

namespace RuleGate

/-- Arguments taken apart around the one option that there may be. -/
structure Arguments where
  /-- The last value of the option. -/
  value : Option Text := none
  help : Bool := false
  /-- What is neither an option nor a value of one. -/
  rest : List Text := []

namespace Arguments

def looksLikeOption (arg : Text) : Bool :=
  ("-" : Text).isPrefixOf arg && arg ≠ "-"

/-- The value that is written with an equals sign after the name of an option. -/
def attached? (name arg : Text) : Option Text :=
  match Text.splitAt '=' arg with
  | (before, some value) => if before = name then some value else none
  | (_, none) => none

def withArgument (arg : Text) (a : Arguments) : Arguments :=
  { a with rest := arg :: a.rest }

/-- A later value counts more. -/
def withValue (value : Text) (a : Arguments) : Arguments :=
  { a with value := a.value.or (some value) }

def withHelp (a : Arguments) : Arguments :=
  { a with help := true }

/-- Reads arguments, unless one is an unknown option or an option without a value. Where options
are not `mixed` with other arguments, the first of those ends them. -/
def read? (option : Option Text) (mixed : Bool) : List Text → Option Arguments
  | [] => some {}
  | arg :: rest =>
    if arg = "--" then some { rest }
    else if !looksLikeOption arg then
      if mixed then (read? option mixed rest).map (withArgument arg)
      else some { rest := arg :: rest }
    else if arg = "--help" then (read? option mixed rest).map withHelp
    else if option = some arg then
      match rest with
      | value :: rest => (read? option mixed rest).map (withValue value)
      | [] => none
    else
      match option.bind fun name => attached? name arg with
      | some value => (read? option mixed rest).map (withValue value)
      | none => none

end Arguments

inductive CommandName
  | keys | compile | evaluate
  deriving DecidableEq, Repr

instance : Named CommandName where
  all := [.keys, .compile, .evaluate]
  name
    | .keys => "keys"
    | .compile => "compile"
    | .evaluate => "evaluate"

def CommandName.option? : CommandName → Option Text
  | keys => none
  | compile => some "--snapshot"
  | evaluate => some "--seed"

/-- Whether a seed is an integer, written as a field of a snapshot may write one. -/
def isSeed (t : Text) : Bool :=
  (Schema.integerOfText t).value?.isSome

def CommandName.command? (name : CommandName) (a : Arguments) : Option Command :=
  match name, a.rest with
  | keys, [] => some .keys
  | compile, [rules] => some (.compile rules a.value)
  | evaluate, [rules, snapshot] =>
    if a.value.all isSeed then some (.evaluate rules snapshot)
    else none
  | _, _ => none

structure Invocation where
  logLevel : Option Text
  name : CommandName
  arguments : List Text

namespace Invocation

/-- What stands in front of the name of a command. -/
def readOptions? : List Text → Option Arguments :=
  Arguments.read? (some "--log-level") false

/-- Where no command has the name, it may be an option that stands after two dashes: so help is
looked for once more. -/
def unknownName (args : List Text) : Refusal :=
  if (readOptions? args).any Arguments.help then .help else .usage

def ofArguments? (args : List Text) : Except Refusal Invocation :=
  match readOptions? args with
  | none => .error .usage
  | some ⟨level, help, rest⟩ =>
    if help then .error .help
    else
      match rest with
      | [] => .error .usage
      | name :: arguments =>
        match Named.ofName? name with
        | some name => .ok ⟨level, name, arguments⟩
        | none => .error (unknownName rest)

/-- Help is given before anything is said about arguments that do not fit. -/
def command (i : Invocation) : Except Refusal Command :=
  match Arguments.read? i.name.option? true i.arguments with
  | none => .error .usage
  | some a =>
    if a.help then .error .help
    else
      match i.name.command? a with
      | some c => .ok c
      | none => .error .usage

def levels : List Text :=
  ["CRITICAL", "FATAL", "ERROR", "WARN", "WARNING", "INFO", "DEBUG", "NOTSET"]

/-- The level that is asked for and unknown; an empty one is none. -/
def unknownLevel? (i : Invocation) : Option Text :=
  match i.logLevel with
  | none | some [] => none
  | some level =>
    let upper := Text.upper level
    if upper ∈ levels then none else some upper

end Invocation

namespace Session

def ofArguments (settings : Settings) (files : Files) (source : Nat → Number)
    (args : List Text) : Session :=
  match Invocation.ofArguments? args with
  | .error r => ⟨[], .refused r⟩
  | .ok i =>
    match i.unknownLevel? with
    | some level => ⟨[], .unknownLevel level⟩
    | none =>
      match i.command with
      | .error r => ⟨[], .refused r⟩
      | .ok c => c.run settings files source

end Session
end RuleGate
