import RuleGate.Json.Value
import RuleGate.Text.Digit

/-!
# Tokens of JSON text

A text is cut into tokens once, each with the position of its first code point. Cutting never
fails: a token may carry a complaint of its own, which matters only where a value or a name is
read there, and from the first code point that begins no token nothing more is cut.
-/

namespace RuleGate.Json

inductive Complaint
  | byteOrderMark
  | value
  | propertyName
  | colon
  | comma
  | extra
  | unterminated
  | control
  | badEscape
  | badCodeEscape
  deriving DecidableEq, Repr

structure SyntaxError where
  complaint : Complaint
  pos : Nat
  deriving DecidableEq, Repr

inductive Lexeme
  | openObject
  | closeObject
  | openArray
  | closeArray
  | comma
  | colon
  | text (s : Text)
  | badText (e : SyntaxError)
  /-- A literal or a number. -/
  | atom (v : Json)
  /-- An integer with too many digits. -/
  | overlong (digits : Nat)
  | stray
  | finish

structure Token where
  lexeme : Lexeme
  pos : Nat

def hexValue? : CodePoint → Option Nat
  | .char c =>
    if c.isDigit then some (c.toNat - 0x30)
    else if 'a' ≤ c && c ≤ 'f' then some (c.toNat - 0x61 + 10)
    else if 'A' ≤ c && c ≤ 'F' then some (c.toNat - 0x41 + 10)
    else none
  | .half _ => none

/-- The UTF-16 unit written by exactly four hexadecimal digits. -/
def unit? (cs : Text) : Option Nat :=
  if (cs.take 4).length = 4 then
    ((cs.take 4).mapM hexValue?).map fun ds => ds.foldl (fun n d => 16 * n + d) 0
  else none

def simpleEscape? : CodePoint → Option CodePoint
  | .char '"' => some '"'
  | .char '\\' => some '\\'
  | .char '/' => some '/'
  | .char 'b' => some '\x08'
  | .char 'f' => some '\x0c'
  | .char 'n' => some '\n'
  | .char 'r' => some '\r'
  | .char 't' => some '\t'
  | _ => none

def isHighSurrogate (n : Nat) : Bool := 0xd800 ≤ n && n ≤ 0xdbff

def isLowSurrogate (n : Nat) : Bool := 0xdc00 ≤ n && n ≤ 0xdfff

def joinUnits (high low : Nat) : CodePoint :=
  Char.ofNat (0x10000 + (high - 0xd800) * 0x400 + (low - 0xdc00))

/-- The code point of a code escape, given what follows its `u` at position `pos`, and the number
of code points read. Two escapes that write the halves of a pair are read as one character.
Something must follow the digits: at the least the closing mark. -/
def codeEscape (pos : Nat) (cs : Text) : Except SyntaxError (CodePoint × Nat) :=
  match unit? cs, cs.drop 4 with
  | none, _ | _, [] => .error ⟨.badCodeEscape, pos⟩
  | some high, .char '\\' :: .char 'u' :: rest =>
    if isHighSurrogate high && 4 < rest.length then
      match unit? rest with
      | none => .error ⟨.badCodeEscape, pos + 6⟩
      | some low =>
        if isLowSurrogate low then .ok (joinUnits high low, 10) else .ok (.ofUnit high, 4)
    else .ok (.ofUnit high, 4)
  | some n, _ => .ok (.ofUnit n, 4)

/-- Reads a text up to its closing mark; `start` is the position of the opening mark. Answers with
the text and the number of code points read so far. -/
def scanText (start : Nat) (done : Text) (count : Nat) :
    Text → Except SyntaxError (Text × Nat)
  | [] => .error ⟨.unterminated, start⟩
  | .char '"' :: _ => .ok (done.reverse, count + 1)
  | [.char '\\'] => .error ⟨.unterminated, start⟩
  | .char '\\' :: .char 'u' :: rest =>
    match codeEscape (start + count + 2) rest with
    | .error e => .error e
    | .ok (c, k) => scanText start (c :: done) (count + 2 + k) (rest.drop k)
  | .char '\\' :: c :: rest =>
    match simpleEscape? c with
    | none => .error ⟨.badEscape, start + count + 1⟩
    | some e => scanText start (e :: done) (count + 2) rest
  | c :: rest =>
    if c.toNat ≤ 0x1f then .error ⟨.control, start + count + 1⟩
    else scanText start (c :: done) (count + 1) rest
termination_by cs => cs.length
decreasing_by all_goals simp; try omega

def digitsOf (cs : Text) : Nat :=
  Text.ofDigits (cs.map fun c => c.toNat - 0x30)

/-- The digits of a whole part: zero stands alone. -/
def wholeDigits : Text → Text
  | .char '0' :: _ => ['0']
  | cs => cs.takeWhile CodePoint.isDigit

def fractionDigits : Text → Text
  | .char '.' :: rest => rest.takeWhile CodePoint.isDigit
  | _ => []

/-- The power after an `e` and the number of code points that write it. -/
def power? : Text → Option (Int × Nat)
  | c :: rest =>
    if c = 'e' || c = 'E' then
      let (negative, body) := Text.splitSign rest
      let digits := body.takeWhile CodePoint.isDigit
      if digits.isEmpty then none
      else some (Text.signed negative (digitsOf digits),
        1 + (rest.length - body.length) + digits.length)
    else none
  | [] => none

/-- The number at the front of a text and the number of code points that write it. -/
def numberAtom? (cs : Text) : Option (Lexeme × Nat) :=
  let negative := cs.head? = some (.char '-')
  let signLength := if negative then 1 else 0
  let body := cs.drop signLength
  let whole := wholeDigits body
  if whole.isEmpty then none
  else
    let fraction := fractionDigits (body.drop whole.length)
    let fractionLength := if fraction.isEmpty then 0 else fraction.length + 1
    let length := signLength + whole.length + fractionLength
    match power? (cs.drop length) with
    | some (power, k) =>
      some (.atom (.float (Double.ofDecimal negative (digitsOf (whole ++ fraction))
        (power - fraction.length))), length + k)
    | none =>
      if fraction.isEmpty then
        if NumberFault.digitLimit < whole.length then some (.overlong whole.length, length)
        else some (.atom (.int (Text.signed negative (digitsOf whole))), length)
      else
        some (.atom (.float (Double.ofDecimal negative (digitsOf (whole ++ fraction))
          (-fraction.length))), length)

def literals : List (Text × Json) := [
    ("null", .null), ("true", .bool true), ("false", .bool false), ("NaN", .float .nan),
    ("Infinity", .float (.infinity false)), ("-Infinity", .float (.infinity true))]

def literal? (cs : Text) : Option (Lexeme × Nat) :=
  (literals.find? fun l => l.1.isPrefixOf cs).map fun l => (.atom l.2, l.1.length)

/-- The token that begins with `c` at position `pos`, and the number of code points after `c` that
belong to it. -/
def lexeme (pos : Nat) (c : CodePoint) (rest : Text) : Lexeme × Nat :=
  match c with
  | .char '{' => (.openObject, 0)
  | .char '}' => (.closeObject, 0)
  | .char '[' => (.openArray, 0)
  | .char ']' => (.closeArray, 0)
  | .char ',' => (.comma, 0)
  | .char ':' => (.colon, 0)
  | .char '"' =>
    match scanText pos [] 0 rest with
    | .ok (s, k) => (.text s, k)
    | .error e => (.badText e, rest.length)
  | c =>
    match literal? (c :: rest) <|> numberAtom? (c :: rest) with
    | some (l, k) => (l, k - 1)
    | none => (.stray, rest.length)

def isLayout (c : CodePoint) : Bool :=
  c = ' ' || c = '\t' || c = '\n' || c = '\r'

/-- The tokens of a text that begins at position `pos`. -/
def tokens (pos : Nat) : Text → List Token
  | [] => [⟨.finish, pos⟩]
  | c :: rest =>
    if isLayout c then tokens (pos + 1) rest
    else
      let (l, k) := lexeme pos c rest
      ⟨l, pos⟩ :: tokens (pos + 1 + k) (rest.drop k)
termination_by cs => cs.length
decreasing_by all_goals simp; try omega

end RuleGate.Json
