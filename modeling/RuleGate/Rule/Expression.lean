import RuleGate.Rule.Error
import RuleGate.Text.Digit

/-!
# Integer expressions

A comparison with one integer, or a range with both its ends included. Written forms are a sign of
comparison before an integer, two integers with a minus between them, and a bare integer, which
means equality; blanks may stand around each integer.
-/

namespace RuleGate

inductive Comparison
  | ge | gt | le | ne | lt | eq
  deriving DecidableEq, Repr

def Comparison.holds (a b : Int) : Comparison → Bool
  | ge => b ≤ a
  | gt => b < a
  | le => a ≤ b
  | ne => a ≠ b
  | lt => a < b
  | eq => a = b

inductive Expression
  | compare (op : Comparison) (amount : Int)
  | between (low high : Int)
  deriving DecidableEq, Repr

namespace Expression

def holds (n : Int) : Expression → Bool
  | compare op amount => op.holds n amount
  | between low high => low ≤ n && n ≤ high

/-- The signs of comparison, in the order in which they are tried. -/
def signs : List (Text × Comparison) := [
    (">=", .ge), (">", .gt), ("<=", .le), ("<>", .ne), ("<", .lt), ("=", .eq), ("!=", .ne)]

def splitComparison? (cs : Text) : Option (Comparison × Text) :=
  signs.findSome? fun s => if s.1.isPrefixOf cs then some (s.2, cs.drop s.1.length) else none

/-- Splits at the first minus that is not in front: a leading one belongs to the number. -/
def splitRange? : Text → Option (Text × Text)
  | [] => none
  | c :: rest =>
    match Text.splitAt '-' rest with
    | (low, some high) => some (c :: low, high)
    | (_, none) => none

/-- Reads one integer of the expression `whole`. -/
def integer (whole : Text) (cs : Text) : Except Failure Int :=
  let (negative, digits) := Text.splitSign (Text.strip cs)
  match digits.mapM Text.asciiDigit? with
  | none | some [] => .error (.compile (.badExpression whole whole))
  | some ds =>
    if NumberFault.digitLimit < ds.length then .error (.number (.tooLong ds.length))
    else .ok (Text.signed negative (Text.ofDigits ds))

def parse (s : Text) : Except Failure Expression :=
  let cs := Text.strip s
  match splitComparison? cs with
  | some (op, rest) => do
    let amount ← integer s rest
    return compare op amount
  | none =>
    match splitRange? cs with
    | some (low, high) => do
      let low ← integer s low
      let high ← integer s high
      return between low high
    | none => do
      let amount ← integer s cs
      return compare .eq amount

def ofDouble (d : Double) : Except Failure Expression :=
  match d.truncate with
  | .ok i => .ok (compare .eq i)
  | .error f => .error (.number f)

/-- A number means equality, a text is parsed, and nothing else is an expression. -/
def ofJson : Json → Except Failure Expression
  | .int i => .ok (compare .eq i)
  | .float d => ofDouble d
  | .str s => parse s
  | v => .error (.compile (.badExpression v.describe v.shown))

/-- Null stands for no expression. -/
def optional : Json → Except Failure (Option Expression)
  | .null => .ok none
  | v => (ofJson v).map some

end Expression
end RuleGate
