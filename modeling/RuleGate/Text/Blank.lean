import RuleGate.Text.Basic

/-!
# Blank characters

`isSpace` is the Unicode property White_Space. Names, expressions and descriptors also ignore the
four information separators at their ends: that larger class is `isBlank`, and `strip` removes it.
-/

namespace RuleGate.Text

/-- Whether a character lies in one of the closed ranges of code points. -/
def within (ranges : List (Nat × Nat)) (c : CodePoint) : Bool :=
  ranges.any fun r => r.1 ≤ c.toNat && c.toNat ≤ r.2

def spaceRanges : List (Nat × Nat) := [
    (0x9, 0xd), (0x20, 0x20), (0x85, 0x85), (0xa0, 0xa0), (0x1680, 0x1680), (0x2000, 0x200a),
    (0x2028, 0x2029), (0x202f, 0x202f), (0x205f, 0x205f), (0x3000, 0x3000)]

def isSpace (c : CodePoint) : Bool :=
  within spaceRanges c

def isBlank (c : CodePoint) : Bool :=
  isSpace c || (0x1c ≤ c.toNat && c.toNat ≤ 0x1f)

def trim (p : CodePoint → Bool) (t : Text) : Text :=
  ((t.dropWhile p).reverse.dropWhile p).reverse

def strip (t : Text) : Text :=
  trim isBlank t

end RuleGate.Text
