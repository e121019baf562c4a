import RuleGate.Number.Basic
import RuleGate.Table

/-!
# JSON values

A JSON value keeps integers apart from doubles, and an object keeps the order of its names, of
which none occurs twice. `same` is equality by content: numbers and truth values by their exact
value, objects whatever the order of their names. The double that is no number is the same as
itself.
-/

namespace RuleGate

inductive Json
  | null
  | bool (b : Bool)
  | int (i : Int)
  | float (d : Double)
  | str (s : Text)
  | arr (items : List Json)
  | obj (fields : List (Text × Json))

abbrev Fields := Table Text Json

namespace Json

/-- Truth values count as zero and one. -/
def number? : Json → Option Number
  | bool b => some (.int (if b then 1 else 0))
  | int i => some (.int i)
  | float d => some (.float d)
  | _ => none

def sameNumber (a b : Json) : Bool :=
  match a.number?, b.number? with
  | some (.float .nan), some (.float .nan) => true
  | some x, some y => x.same y
  | _, _ => false

mutual

def same : Json → Json → Bool
  | null, null => true
  | str s, str t => s = t
  | arr xs, arr ys => sameItems xs ys
  | obj fs, obj gs => fs.length = gs.length && sameFields fs gs
  | a, b => sameNumber a b

def sameItems : List Json → List Json → Bool
  | [], [] => true
  | x :: xs, y :: ys => same x y && sameItems xs ys
  | _, _ => false

def sameFields : List (Text × Json) → Fields → Bool
  | [], _ => true
  | (name, v) :: rest, gs =>
    (match gs.get? name with
      | some w => same v w
      | none => false) && sameFields rest gs

end

/-- Null, false, zero and whatever is empty count as nothing. -/
def isNothing : Json → Bool
  | null => true
  | bool b => !b
  | int i => i = 0
  | float d => d.isZero
  | str s => s.isEmpty
  | arr items => items.isEmpty
  | obj fields => fields.isEmpty

end Json
end RuleGate
