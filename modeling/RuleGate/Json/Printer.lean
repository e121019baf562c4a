import RuleGate.Json.Value
import RuleGate.Number.Shortest
import RuleGate.Text.Quoted

/-!
# Writing JSON values

Messages show values in two ways: `text` writes JSON in ASCII on one line, and `describe` writes a
value for a reader, with `True`, `False` and `None` and texts quoted only inside other values.
-/

namespace RuleGate.Json

/-- The spellings in which two ways of writing a value differ. -/
structure Style where
  nothing : Text
  yes : Text
  no : Text
  notANumber : Text
  infinite : Text
  quote : Text → Text

def jsonStyle : Style :=
  ⟨"null", "true", "false", "NaN", "Infinity", Text.jsonQuoted⟩

def plainStyle : Style :=
  ⟨"None", "True", "False", "nan", "inf", Text.quoted⟩

variable (style : Style)

mutual

def write : Json → Text
  | null => style.nothing
  | bool b => if b then style.yes else style.no
  | int i => toString i
  | float d => d.text style.notANumber style.infinite
  | str s => style.quote s
  | arr items => "[" ++ .join ", " (writeItems items) ++ "]"
  | obj fields => "\x7b" ++ .join ", " (writeFields fields) ++ "\x7d"

def writeItems : List Json → List Text
  | [] => []
  | v :: rest => write v :: writeItems rest

def writeFields : List (Text × Json) → List Text
  | [] => []
  | (name, v) :: rest => (style.quote name ++ ": " ++ write v) :: writeFields rest

end

def text (v : Json) : Text :=
  v.write jsonStyle

/-- A value as it is shown inside other values. -/
def shown (v : Json) : Text :=
  v.write plainStyle

/-- A text stands for itself, any other value is shown. -/
def describe : Json → Text
  | str s => s
  | v => v.shown

end RuleGate.Json
