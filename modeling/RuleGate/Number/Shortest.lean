import RuleGate.Number.Double

/-!
# Shortest decimal text of a double

Of the decimals that read back as the given double the text shows one with the fewest digits, and
of those the nearest. A decimal exponent from -4 to 15 is written positionally, any other after
an `e` with a sign and at least two digits.
-/

namespace RuleGate.Double

def decimalDigits (n : Nat) : List Char :=
  Nat.toDigits 10 n

/-- The `k` with `10 ^ (k - 1) ≤ num / den < 10 ^ k`. -/
def decimalOrder (num den : Nat) : Int :=
  if den ≤ num then (decimalDigits (num / den)).length
  else 1 - (decimalDigits ((den - 1) / num)).length

/-- The decimal with `places` digits nearest to a double among those that read back as it. -/
def decimalOf? (d : Double) (num den : Nat) (order : Int) (places : Nat) : Option (Nat × Int) :=
  let exponent := order - places
  let scaledNum := num * pow10 (-exponent).toNat
  let scaledDen := den * pow10 exponent.toNat
  let low := scaledNum / scaledDen
  let nearest := roundQuotient scaledNum scaledDen
  let other := if nearest = low then low + 1 else low
  if ofDecimal false nearest exponent = d then some (nearest, exponent)
  else if ofDecimal false other exponent = d then some (other, exponent)
  else none

/-- The fewest digits, and the exponent of ten of the last one. -/
def shortest (mantissa : Nat) (exponent : Int) : Nat × Int :=
  let num := numerator mantissa exponent
  let den := denominator exponent
  let order := decimalOrder num den
  let found := (List.range 17).findSome? fun i =>
    decimalOf? (finite false mantissa exponent) num den order (i + 1)
  found.getD (roundQuotient num den, 0)

def stripZeros (digits : List Char) : List Char :=
  match (digits.reverse.dropWhile (· = '0')).reverse with
  | [] => ['0']
  | kept => kept

/-- Digits with the decimal point after the first `point` of them, positionally. -/
def positional (digits : List Char) (point : Int) : List Char :=
  if point ≤ 0 then '0' :: '.' :: List.replicate (-point).toNat '0' ++ digits
  else
    let k := point.toNat
    if digits.length ≤ k then digits ++ List.replicate (k - digits.length) '0' ++ ['.', '0']
    else digits.take k ++ '.' :: digits.drop k

def scientific (digits : List Char) (point : Int) : List Char :=
  let head := digits.take 1
  let tail := if digits.length ≤ 1 then [] else '.' :: digits.drop 1
  let power := point - 1
  let shown := decimalDigits power.natAbs
  let padded := if shown.length < 2 then '0' :: shown else shown
  head ++ tail ++ 'e' :: (if power < 0 then '-' else '+') :: padded

def layout (digits : List Char) (point : Int) : List Char :=
  if -4 < point && point ≤ 16 then positional digits point else scientific digits point

def magnitudeText (mantissa : Nat) (exponent : Int) : List Char :=
  if mantissa = 0 then ['0', '.', '0']
  else
    let (digits, power) := shortest mantissa exponent
    let shown := decimalDigits digits
    layout (stripZeros shown) (shown.length + power)

def sign (negative : Bool) : Text :=
  if negative then "-" else ""

/-- The text of a double, given the words for what is not finite. -/
def text (notANumber infinite : Text) : Double → Text
  | nan => notANumber
  | infinity negative => sign negative ++ infinite
  | finite negative mantissa exponent =>
    sign negative ++ .ofList (magnitudeText mantissa exponent)

end RuleGate.Double
