import RuleGate.Text.Basic

/-!
# Splitting text

Texts are split at the first place where a mark stands, or after a leading sign.
-/

namespace RuleGate.Text

/-- What stands before the first mark, and what stands after it if it is there. -/
def splitAt (mark : CodePoint) (t : Text) : Text × Option Text :=
  match t.dropWhile (· ≠ mark) with
  | [] => (t, none)
  | _ :: rest => (t.takeWhile (· ≠ mark), some rest)

/-- Splits one optional sign off; `true` stands for minus. -/
def splitSign : Text → Bool × Text
  | .char '-' :: rest => (true, rest)
  | .char '+' :: rest => (false, rest)
  | text => (false, text)

end RuleGate.Text
