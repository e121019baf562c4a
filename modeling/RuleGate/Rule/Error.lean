import RuleGate.Json.Printer
import RuleGate.Json.Reader
import RuleGate.Rule.Key
import RuleGate.Schema.Checked

/-!
# Errors and diagnostics

Why a part of a rule cannot be compiled, what is said about it, and which part is meant. A number
that cannot be turned into an integer is no such error: it is not recovered from. Diagnostics are
the errors that were recovered from, by leaving a check or one item of it out.
-/

namespace RuleGate

inductive DescriptorKind
  | item | block | offset
  deriving DecidableEq, Repr

def DescriptorKind.label : DescriptorKind → Text
  | item => "Item"
  | block => "Block"
  | offset => "Block offset"

inductive CompileError
  | badExpression (shown subject : Text)
  | unknownItem (name : Text)
  | unknownBlock (name : Text)
  | badJson (raw : Text) (complaint : Json.Complaint)
  | wrongKind (kind : DescriptorKind) (value : Json)
  | badFields (kind : DescriptorKind) (value : Json) (problems : List Schema.Problem)
  | badDamage (text : Text)
  | badTagData (text : Text)
  | bareItem (value : Json)
  | bareTag (tag : Text)
  | unknownSide (name : Text)
  | badState (key : Key) (text : Text)
  | unknownWeather (name : Text)
  | unknownDifficulty (name : Text)
  | unknownBiomeType (name : Text)
  | missingCapability (capability : Capability) (key : Key)

namespace CompileError

inductive Kind
  | expression | unknownItem | unknownBlock | malformed | capability
  deriving DecidableEq, Repr

def kind : CompileError → Kind
  | badExpression .. => .expression
  | unknownItem _ => .unknownItem
  | unknownBlock _ => .unknownBlock
  | missingCapability .. => .capability
  | _ => .malformed

/-- A problem with its place; the whole value has no place of its own. -/
def problemText (p : Schema.Problem) : Text :=
  let place : Text := if p.place.isEmpty then "<root>" else p.place
  place ++ ": " ++ p.message

def message : CompileError → Text
  | badExpression shown _ => "Bad expression '" ++ shown ++ "'!"
  | unknownItem name => "Unknown item '" ++ name ++ "'!"
  | unknownBlock name => "Block '" ++ name ++ "' is not valid!"
  | badJson raw complaint => "Descriptor '" ++ raw ++ "' is not valid JSON: " ++ complaint.message
  | wrongKind kind value => kind.label ++ " description '" ++ value.describe ++ "' is not valid!"
  | badFields kind value problems =>
    kind.label ++ " description '" ++ value.text ++ "' is not valid: " ++
      .join "; " (problems.map problemText)
  | badDamage text => "Bad damage value in item '" ++ text ++ "'!"
  | badTagData text => "Bad tag data in item '" ++ text ++ "'!"
  | bareItem value => "Item description '" ++ value.text ++ "' needs an 'item' or 'empty' field!"
  | bareTag tag => "Tag test for '" ++ tag ++ "' needs a 'value' or a 'contains' list!"
  | unknownSide name => "Unknown side '" ++ name ++ "'!"
  | badState _ text => "Bad state=value specifier '" ++ text ++ "'!"
  | unknownWeather name => "Unknown weather '" ++ name ++ "'! Use 'rain' or 'thunder'"
  | unknownDifficulty name =>
    "Unknown difficulty '" ++ name ++
      "'! Use one of 'easy', 'normal', 'hard', or 'peaceful'"
  | unknownBiomeType name => "Unknown biome type '" ++ name ++ "'!"
  | missingCapability capability key =>
    capability.label ++ " is missing: the '" ++ key.name ++ "' test cannot work!"

/-- The text or key that an error is about. -/
def subject : CompileError → Text
  | badExpression _ subject => subject
  | unknownItem name => name
  | unknownBlock name => name
  | badJson raw _ => raw
  | wrongKind _ value => value.describe
  | badFields _ value _ => value.describe
  | badDamage text => text
  | badTagData text => text
  | bareItem value => value.describe
  | bareTag tag => tag
  | unknownSide name => name
  | badState key _ => key.name
  | unknownWeather _ => Key.weather.name
  | unknownDifficulty _ => Key.difficulty.name
  | unknownBiomeType _ => Key.biomeType.name
  | missingCapability _ key => key.name

end CompileError

/-- Why compiling stops: an error of the rule, or a number that is no integer. -/
inductive Failure
  | compile (e : CompileError)
  | number (f : NumberFault)

def Failure.ofFault {α : Type} : Except NumberFault α → Except Failure α
  | .ok a => .ok a
  | .error f => .error (.number f)

inductive Level
  | error | warning
  deriving DecidableEq, Repr

inductive Diagnostic
  /-- A name whose values do not fit its key. -/
  | badValue (key : Key) (complaint : Schema.Complaint)
  /-- A check that is left out. -/
  | omitted (e : CompileError)
  /-- An item description that is left out. -/
  | skipped (e : CompileError)

namespace Diagnostic

/-- A missing capability and a bad expression only make a rule weaker. -/
def level : Diagnostic → Level
  | badValue .. => .error
  | skipped _ => .warning
  | omitted e => if e.kind = .capability || e.kind = .expression then .warning else .error

def message : Diagnostic → Text
  | badValue key complaint => "Bad value for '" ++ key.name ++ "': " ++ complaint.message
  | skipped e => e.message
  | omitted e => e.message

end Diagnostic
end RuleGate
