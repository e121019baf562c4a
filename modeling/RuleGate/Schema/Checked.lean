import RuleGate.Text.Basic

/-!
# Checked values

The result of checking a value: the value meant, or every problem found, each with the path that
leads to it. Two checks side by side report the problems of both, those of the first before those
of the second.
-/

namespace RuleGate.Schema

inductive Complaint
  | missing
  | extra
  | integer
  | fractional
  | integerText
  | integerSize
  | finiteNumber
  | number
  | numberText
  | boolean
  | unclearBoolean
  | text
  /-- The text holds half of a surrogate pair. -/
  | brokenText
  | list
  | table
  | tuple
  | tupleLength (most actual : Nat)
  | record (kind : Text)
  | oneOf (names : List Text)
  /-- The value lies too deep in others. -/
  | tooDeep
  /-- The value was refused before, where it lies too deep. -/
  | cycle
  deriving DecidableEq, Repr

inductive Step
  | name (s : Text)
  | index (i : Nat)
  /-- The name itself, not what stands under it. -/
  | key
  deriving DecidableEq, Repr

structure Problem where
  path : List Step
  complaint : Complaint
  deriving DecidableEq, Repr

def Problem.under (p : Problem) (step : Step) : Problem :=
  { p with path := step :: p.path }

inductive Checked (α : Type)
  | valid (a : α)
  | invalid (first : Problem) (others : List Problem)

namespace Checked

variable {α β : Type}

def fail (complaint : Complaint) : Checked α :=
  .invalid ⟨[], complaint⟩ []

def ofOption (complaint : Complaint) : Option α → Checked α
  | some a => valid a
  | none => fail complaint

def map (f : α → β) : Checked α → Checked β
  | valid a => valid (f a)
  | invalid p ps => invalid p ps

def seq : Checked (α → β) → Checked α → Checked β
  | valid f, valid a => valid (f a)
  | valid _, invalid p ps => invalid p ps
  | invalid p ps, valid _ => invalid p ps
  | invalid p ps, invalid q qs => invalid p (ps ++ q :: qs)

instance : Applicative Checked where
  map := map
  pure := valid
  seq f x := seq f (x ())

/-- The check of a part: its problems lie one step further down. -/
def under (step : Step) : Checked α → Checked α
  | valid a => valid a
  | invalid p ps => invalid (p.under step) (ps.map fun p => p.under step)

def value? : Checked α → Option α
  | valid a => some a
  | invalid _ _ => none

end Checked

/-- Names in marks, with commas and a last `or` between them. -/
def alternatives : List Text → Text
  | [] => ""
  | [a] => "'" ++ a ++ "'"
  | [a, b] => "'" ++ a ++ "' or '" ++ b ++ "'"
  | a :: rest => "'" ++ a ++ "', " ++ alternatives rest

def Complaint.message : Complaint → Text
  | missing => "Field required"
  | extra => "Extra inputs are not permitted"
  | integer => "Input should be a valid integer"
  | fractional => "Input should be a valid integer, got a number with a fractional part"
  | integerText => "Input should be a valid integer, unable to parse string as an integer"
  | integerSize => "Unable to parse input string as an integer, exceeded maximum size"
  | finiteNumber => "Input should be a finite number"
  | number => "Input should be a valid number"
  | numberText => "Input should be a valid number, unable to parse string as a number"
  | boolean => "Input should be a valid boolean"
  | unclearBoolean => "Input should be a valid boolean, unable to interpret input"
  | text => "Input should be a valid string"
  | brokenText =>
    "Input should be a valid string, unable to parse raw data as a unicode string"
  | list => "Input should be a valid list"
  | table => "Input should be a valid dictionary"
  | tuple => "Input should be a valid tuple"
  | tupleLength most actual =>
    s!"Tuple should have at most {most} items after validation, not {actual}"
  | record kind => "Input should be a valid dictionary or instance of " ++ kind
  | oneOf names => "Input should be " ++ alternatives names
  | tooDeep => "Recursion error - maximum validation depth exceeded"
  | cycle => "Recursion error - cyclic reference detected"

/-- A name in a place consists of characters: half of a pair is three bytes of which none begins a
character, and each is replaced. -/
def placeName (s : Text) : Text :=
  s.flatMap fun c => if c.isHalf then List.replicate 3 Text.replacement else [c]

def Step.text : Step → Text
  | name s => placeName s
  | index i => toString i
  | key => "[key]"

/-- The path to a problem, with points between its steps. -/
def Problem.place (p : Problem) : Text :=
  .join "." (p.path.map Step.text)

def Problem.message (p : Problem) : Text :=
  p.complaint.message

end RuleGate.Schema
