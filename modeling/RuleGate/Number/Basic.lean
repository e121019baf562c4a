import RuleGate.Number.Double

/-!
# Numbers and their order

A number is an integer of any size or a double. Numbers are compared by their exact values, so an
integer and a double never lose a digit on the way; nothing compares with what is no number.
-/

namespace RuleGate

inductive Number
  | int (i : Int)
  | float (d : Double)
  deriving DecidableEq, Repr

/-- A place on the line of rationals with both its ends. -/
inductive Place
  | below
  | rational (q : Rat)
  | above
  deriving DecidableEq

namespace Place

def lt : Place → Place → Bool
  | below, below => false
  | below, _ => true
  | rational p, rational q => p < q
  | rational _, above => true
  | _, _ => false

end Place

namespace Number

def place? : Number → Option Place
  | int i => some (.rational i)
  | float .nan => none
  | float (.infinity negative) => some (if negative then .below else .above)
  | float d => d.value?.map .rational

def lt (a b : Number) : Bool :=
  match a.place?, b.place? with
  | some p, some q => p.lt q
  | _, _ => false

def same (a b : Number) : Bool :=
  match a.place?, b.place? with
  | some p, some q => p = q
  | _, _ => false

def le (a b : Number) : Bool :=
  a.lt b || a.same b

end Number
end RuleGate
