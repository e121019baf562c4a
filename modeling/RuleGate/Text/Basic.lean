/-!
# Texts

A text is a list of code points. Nearly all of them are characters; the others are halves of a
surrogate pair, which a code escape can write one without the other. Such a half has no printed
form, no letter case and no place in UTF-8, but texts that differ in one are different texts. Code
points are ordered by their numbers, texts by their code points.
-/

namespace RuleGate

inductive CodePoint
  | char (c : Char)
  /-- Half of a surrogate pair, by its distance from the first of all halves. -/
  | half (n : Fin 0x800)
  deriving DecidableEq, Repr

abbrev Text := List CodePoint

namespace CodePoint

instance : Coe Char CodePoint := ⟨char⟩

def firstHalf : Nat := 0xd800

def toNat : CodePoint → Nat
  | char c => c.toNat
  | half n => firstHalf + n

/-- The code point with the number of a UTF-16 unit that stands alone. -/
def ofUnit (n : Nat) : CodePoint :=
  if h : firstHalf ≤ n ∧ n - firstHalf < 0x800 then half ⟨n - firstHalf, h.2⟩
  else char (Char.ofNat n)

instance : LT CodePoint := ⟨fun a b => a.toNat < b.toNat⟩

instance (a b : CodePoint) : Decidable (a < b) :=
  inferInstanceAs (Decidable (a.toNat < b.toNat))

def isHalf : CodePoint → Bool
  | char _ => false
  | half _ => true

/-- One of the ten ASCII digits. -/
def isDigit : CodePoint → Bool
  | char c => c.isDigit
  | half _ => false

/-- Lower case of the ASCII letters. -/
def toLower : CodePoint → CodePoint
  | char c => c.toLower
  | half n => half n

end CodePoint

namespace Text

instance : LawfulBEq Text := inferInstance

def ofList (cs : List Char) : Text := cs.map .char

def ofString (s : String) : Text := ofList s.toList

instance : Coe String Text := ⟨ofString⟩

def hasHalf (t : Text) : Bool := t.any CodePoint.isHalf

def join (mark : Text) (parts : List Text) : Text := mark.intercalate parts

/-- What stands for a half of a pair where only characters can stand. -/
def replacement : Char := '\ufffd'

def asString (t : Text) : String :=
  String.ofList <| t.map fun
    | .char c => c
    | .half _ => replacement

end Text
end RuleGate
