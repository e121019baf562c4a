import RuleGate.Json.Value
import RuleGate.Named
import RuleGate.Schema.Checked
import RuleGate.Text.Digit

/-!
# Shapes of single values

A shape reads a JSON value as a value of a type. Numbers and truth values are read from more than
their own kind: from each other where nothing is lost, and from texts that write them.
-/

namespace RuleGate.Schema

abbrev Shape (α : Type) := Json → Checked α

/-- Reads a text of characters; one with half of a surrogate pair in it cannot be read. -/
def readable {α : Type} (read : Text → Checked α) (s : Text) : Checked α :=
  if s.hasHalf then .fail .brokenText else read s

def isNonzeroDigit (c : CodePoint) : Bool :=
  c.isDigit && c ≠ '0'

def hasDoubleUnderscore : Text → Bool
  | .char '_' :: .char '_' :: _ => true
  | _ :: rest => hasDoubleUnderscore rest
  | [] => false

/-- Underscores are passed over, unless one is first, last or next to another. -/
def withoutUnderscores? (t : Text) : Option Text :=
  if t.head? = some (.char '_') || t.getLast? = some (.char '_') || hasDoubleUnderscore t then none
  else some (t.filter (· ≠ '_'))

/-- What follows a zero, without the zeros and underscores in front of it; where nothing else
follows, or a point, the code point `before` it is kept. -/
def afterZeros? (before : CodePoint) : Text → Option Text
  | [] => some [before]
  | c :: rest =>
    if c = '0' || c = '_' then afterZeros? c rest
    else if c = '-' || isNonzeroDigit c then some (c :: rest)
    else if c = '.' then some (before :: c :: rest)
    else none

/-- A number that begins with a digit, without the zeros in front of it. -/
def withoutZeros? : Text → Option Text
  | [] => none
  | c :: rest =>
    if c = '0' then afterZeros? c rest
    else if isNonzeroDigit c then some (c :: rest)
    else none

/-- A number without a fraction of zeros. -/
def withoutFraction (t : Text) : Text :=
  match Text.splitAt '.' t with
  | (whole, some fraction) => if !fraction.isEmpty && fraction.all (· = '0') then whole else t
  | (whole, none) => whole

/-- A number in its plain form: without blanks, plus sign, leading zeros, a fraction of zeros and
underscores. One sign may stand in front, and a minus counts also behind leading zeros. -/
def plainForm? (t : Text) : Option Text := do
  let (negative, body) := Text.splitSign (Text.trim Text.isSpace t)
  let body := withoutFraction (← withoutZeros? body)
  let body := (withoutUnderscores? body).getD body
  return if negative then '-' :: body else body

/-- A minus or nothing, and then digits of which the first is zero only if it stands alone. -/
def plainInteger? (t : Text) : Option Int :=
  let (negative, digits) := match t with
    | .char '-' :: digits => (true, digits)
    | digits => (false, digits)
  if digits.head? = some (.char '0') && digits.length ≠ 1
      || NumberFault.digitLimit < digits.length then none
  else
    match digits.mapM Text.asciiDigit? with
    | none | some [] => none
    | some ds => some (Text.signed negative (Text.ofDigits ds))

/-- Whether a text begins with a plain integer of too many digits, whatever follows it. -/
def isOverlong (t : Text) : Bool :=
  let body := match t with
    | .char '-' :: body => body
    | body => body
  (body.head?.any isNonzeroDigit) &&
    NumberFault.digitLimit < (body.takeWhile CodePoint.isDigit).length

/-- The limit of digits is reported only where nothing stands in front of them. -/
def integerOfText : Text → Checked Int :=
  readable fun t =>
    if isOverlong t then .fail .integerSize
    else .ofOption .integerText ((plainForm? t).bind plainInteger?)

/-- Whole doubles count as integers within this bound. -/
def wholeBound : Int := 0x8000000000000000

def integerOfDouble (d : Double) : Checked Int :=
  match d.truncate with
  | .error _ => .fail .finiteNumber
  | .ok i =>
    if !d.isWhole then .fail .fractional
    else if -wholeBound < i && i < wholeBound then .valid i
    else .fail .integerSize

def integer : Shape Int
  | .int i => .valid i
  | .bool b => .valid (if b then 1 else 0)
  | .float d => integerOfDouble d
  | .str s => integerOfText s
  | _ => .fail .integer

/-- The words for doubles that are not finite, in lower case and without a sign. -/
def specialDouble? (negative : Bool) (word : Text) : Option Double :=
  if word = "inf" || word = "infinity" then some (.infinity negative)
  else if word = "nan" then some .nan
  else none

/-- A power of ten: nothing at all, or an `e` and digits that may have a sign. -/
def powerText? : Text → Option Int
  | [] => some 0
  | c :: rest =>
    let (negative, digits) := Text.splitSign rest
    if (c = 'e' || c = 'E') && !digits.isEmpty && digits.all CodePoint.isDigit then
      (digits.mapM Text.asciiDigit?).map fun ds => Text.signed negative (Text.ofDigits ds)
    else none

/-- A decimal without a sign: digits with a point anywhere among them, and a power. -/
def decimalText? (negative : Bool) (t : Text) : Option Double :=
  let whole := t.takeWhile CodePoint.isDigit
  let rest := t.drop whole.length
  let fraction :=
    match rest with
    | .char '.' :: more => more.takeWhile CodePoint.isDigit
    | _ => []
  let rest :=
    match rest with
    | .char '.' :: more => more.drop fraction.length
    | _ => rest
  if whole.isEmpty && fraction.isEmpty then none
  else do
    let power ← powerText? rest
    let digits ← (whole ++ fraction).mapM Text.asciiDigit?
    return .ofDecimal negative (Text.ofDigits digits) (power - fraction.length)

/-- A decimal or a word for a double, with a sign or without. -/
def plainDouble? (t : Text) : Option Double :=
  let (negative, body) := Text.splitSign t
  specialDouble? negative (body.map CodePoint.toLower) <|> decimalText? negative body

/-- Either blanks may stand around the number or underscores inside it, but not both. -/
def doubleOfText : Text → Checked Double :=
  readable fun t => .ofOption .numberText <|
    plainDouble? (Text.trim Text.isSpace t) <|> (withoutUnderscores? t).bind plainDouble?

def double : Shape Double
  | .float d => .valid d
  | .int i => if (Double.ofInt i).isFinite then .valid (.ofInt i) else .fail .number
  | .bool b => .valid (.ofInt (if b then 1 else 0))
  | .str s => doubleOfText s
  | _ => .fail .number

def trueWords : List Text := ["1", "on", "t", "true", "y", "yes"]

def falseWords : List Text := ["0", "off", "f", "false", "n", "no"]

def booleanOfInt (i : Int) : Checked Bool :=
  if i = 0 then .valid false
  else if i = 1 then .valid true
  else .fail .unclearBoolean

def booleanOfText : Text → Checked Bool :=
  readable fun t =>
    let word := t.map CodePoint.toLower
    if trueWords.contains word then .valid true
    else if falseWords.contains word then .valid false
    else .fail .unclearBoolean

def boolean : Shape Bool
  | .bool b => .valid b
  | .int i => if -wholeBound ≤ i && i < wholeBound then booleanOfInt i else .fail .boolean
  | .float d =>
    match integerOfDouble d with
    | .valid i => booleanOfInt i
    | .invalid .. => .fail .boolean
  | .str s => booleanOfText s
  | _ => .fail .boolean

def text : Shape Text
  | .str s => .valid s
  | _ => .fail .text

def anything : Shape Json := .valid

def notMember (α : Type) [Named α] : Complaint :=
  .oneOf ((Named.all : List α).map Named.name)

def memberOfText {α : Type} [Named α] : Text → Checked α :=
  readable fun t => .ofOption (notMember α) (Named.ofName? t)

def member {α : Type} [Named α] : Shape α
  | .str s => memberOfText s
  | _ => .fail (notMember α)

/-- Null stands for nothing. -/
def nullable {α : Type} (shape : Shape α) : Shape (Option α)
  | .null => .valid none
  | v => some <$> shape v

end RuleGate.Schema
