import RuleGate.Text.Basic

/-!
# Faults of numbers

What can go wrong when a whole number is wanted: the number at hand is infinite or no number at
all, or its text has more digits than are ever read.
-/

namespace RuleGate

inductive NumberFault
  | infinite
  | notANumber
  | tooLong (digits : Nat)
  deriving DecidableEq, Repr

namespace NumberFault

def digitLimit : Nat := 4300

def message : NumberFault → Text
  | infinite => "cannot convert float infinity to integer"
  | notANumber => "cannot convert float NaN to integer"
  | tooLong digits =>
    s!"Exceeds the limit ({digitLimit} digits) for integer string conversion: " ++
    s!"value has {digits} digits; use sys.set_int_max_str_digits() to increase the limit"

end NumberFault
end RuleGate
