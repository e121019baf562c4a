import RuleGate.Number.Fault

/-!
# Binary floating-point numbers

Doubles as data: a finite one is a sign, a mantissa and an exponent of two, with the least exponent
that its precision allows. Every operation rounds the exact result once, to the nearest double and
on a tie to the even mantissa, so all of it is arithmetic of natural numbers.
-/

namespace RuleGate

inductive Double
  | nan
  | infinity (negative : Bool)
  | finite (negative : Bool) (mantissa : Nat) (exponent : Int)
  deriving DecidableEq, Repr

namespace Double

def pow2 (n : Nat) : Nat := Nat.pow 2 n

def pow10 (n : Nat) : Nat := Nat.pow 10 n

/-- A mantissa with as many bits as a double keeps is below this bound. -/
def mantissaBound : Nat := 0x20000000000000

/-- The least mantissa of a double that is not near zero. -/
def leastMantissa : Nat := 0x10000000000000

def minExponent : Int := -1074

def maxExponent : Int := 971

def zero (negative : Bool) : Double :=
  finite negative 0 minExponent

/-- The nearest whole number to a quotient, on a tie the even one. -/
def roundQuotient (num den : Nat) : Nat :=
  let quotient := num / den
  let rest := num % den
  if 2 * rest < den || (2 * rest = den && quotient % 2 = 0) then quotient else quotient + 1

def bitLength (n : Nat) : Nat :=
  if n = 0 then 0 else Nat.log2 n + 1

/-- The exponent of two at which a positive quotient has a mantissa of 53 bits, or the least one. -/
def exponentFor (num den : Nat) : Int :=
  let guess := (bitLength num : Int) - bitLength den - 53
  let scaled := num * pow2 (-guess).toNat / (den * pow2 guess.toNat)
  max minExponent (if mantissaBound ≤ scaled then guess + 1 else guess)

/-- The double nearest to a quotient. -/
def ofRatio (negative : Bool) (num den : Nat) : Double :=
  if num = 0 then zero negative
  else
    let exponent := exponentFor num den
    let mantissa := roundQuotient (num * pow2 (-exponent).toNat) (den * pow2 exponent.toNat)
    let (mantissa, exponent) :=
      if mantissa = mantissaBound then (leastMantissa, exponent + 1) else (mantissa, exponent)
    if maxExponent < exponent then infinity negative else finite negative mantissa exponent

/-- The double nearest to `digits · 10 ^ exponent`. Exponents far outside the range are settled
before any power of ten is taken. -/
def ofDecimal (negative : Bool) (digits : Nat) (exponent : Int) : Double :=
  if digits = 0 || exponent + bitLength digits < -400 then zero negative
  else if 400 < exponent then infinity negative
  else ofRatio negative (digits * pow10 exponent.toNat) (pow10 (-exponent).toNat)

def ofInt (i : Int) : Double :=
  ofRatio (i < 0) i.natAbs 1

def isFinite : Double → Bool
  | finite .. => true
  | _ => false

/-- A finite double without its sign is a quotient of two integers. -/
def numerator (mantissa : Nat) (exponent : Int) : Nat :=
  mantissa * pow2 exponent.toNat

def denominator (exponent : Int) : Nat :=
  pow2 (-exponent).toNat

def value? : Double → Option Rat
  | finite negative mantissa exponent =>
    let magnitude : Rat := (numerator mantissa exponent : Rat) / (denominator exponent : Rat)
    some (if negative then -magnitude else magnitude)
  | _ => none

def mul : Double → Double → Double
  | nan, _ => nan
  | _, nan => nan
  | infinity s, infinity t => infinity (s != t)
  | infinity s, finite t m _ => if m = 0 then nan else infinity (s != t)
  | finite s m _, infinity t => if m = 0 then nan else infinity (s != t)
  | finite s m e, finite t n f =>
    ofRatio (s != t) (numerator (m * n) (e + f)) (denominator (e + f))

/-- The whole part, toward zero. -/
def truncate : Double → Except NumberFault Int
  | nan => .error .notANumber
  | infinity _ => .error .infinite
  | finite negative mantissa exponent =>
    let whole := numerator mantissa exponent / denominator exponent
    .ok (if negative then -(whole : Int) else whole)

def isWhole : Double → Bool
  | finite _ mantissa exponent => mantissa % denominator exponent = 0
  | _ => false

def isZero : Double → Bool
  | finite _ mantissa _ => mantissa = 0
  | _ => false

def signBit (negative : Bool) : Nat :=
  if negative then 0x8000000000000000 else 0

/-- The 64 bits of the interchange format. -/
def bits : Double → Nat
  | nan => 0x7ff8000000000000
  | infinity negative => signBit negative + 0x7ff0000000000000
  | finite negative mantissa exponent =>
    let field := if mantissa < leastMantissa then 0 else (exponent - minExponent + 1).toNat
    signBit negative + field * leastMantissa + mantissa % leastMantissa

end Double
end RuleGate
