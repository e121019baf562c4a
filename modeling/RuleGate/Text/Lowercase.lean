import RuleGate.Text.CaseTable

/-!
# Lower case

The full lower-case mapping of Unicode 14. Two characters need more than the table: a capital I
with a dot becomes two characters, and a capital sigma at the end of a word becomes the final
small sigma.
-/

namespace RuleGate.Text

def isCased (c : CodePoint) : Bool :=
  within casedRanges c

def isCaseIgnorable (c : CodePoint) : Bool :=
  within ignorableRanges c

def lowerChar (c : CodePoint) : CodePoint :=
  if c.toNat < 0x80 then c.toLower else mapIn lowerRuns c

/-- Whether the first character that is not passed over is a cased letter. -/
def startsCased : Text → Bool
  | [] => false
  | c :: rest => if isCaseIgnorable c then startsCased rest else isCased c

/-- Lower case of a text whose last character not passed over is cased iff `afterCased`. -/
def lowerFrom (afterCased : Bool) : Text → Text
  | [] => []
  | c :: rest =>
    let afterCased' := if isCaseIgnorable c then afterCased else isCased c
    if c = 'Σ' then
      (if afterCased && !startsCased rest then 'ς' else 'σ') :: lowerFrom afterCased' rest
    else if c = 'İ' then
      'i' :: '\u0307' :: lowerFrom afterCased' rest
    else
      lowerChar c :: lowerFrom afterCased' rest

def lower (t : Text) : Text :=
  lowerFrom false t

end RuleGate.Text
