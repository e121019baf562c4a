import Mathlib.Tactic.Tauto
import RuleGate.Descriptor.Tag
import RuleGate.Proofs.Except
import RuleGate.Proofs.Text.Numeral

/-!
# Numbers that stop compiling

An expression is *faulty* if it is no error of the rule and still no expression: a double that is
not finite, or a text whose first unreadable integer has too many digits. Parts of a descriptor are
read one after another and the first that is no expression decides, so compiling is stuck on a
list of values exactly when a faulty one is *reached*: all before it are expressions.

`Follows x vs` says that of a computation `x` that reads the values `vs` in this order. It is
closed under doing one thing after another, which gives the tag tests by induction on the
descriptors (`TagTest.follows_compileAll`).
-/

namespace RuleGate

open Failure

/-- Some value is bad, and all values before it are good. -/
def Reaches {α : Type} (good bad : α → Prop) : List α → Prop
  | [] => False
  | a :: rest => bad a ∨ good a ∧ Reaches good bad rest

theorem reaches_append {α : Type} {good bad : α → Prop} {xs ys : List α} :
    Reaches good bad (xs ++ ys) ↔
      Reaches good bad xs ∨ (∀ x ∈ xs, good x) ∧ Reaches good bad ys := by
  induction xs with
  | nil => simp [Reaches]
  | cons x rest ih =>
    simp only [List.cons_append, Reaches, ih, List.forall_mem_cons]
    tauto

theorem exists_of_reaches {α : Type} {good bad : α → Prop} {xs : List α}
    (h : Reaches good bad xs) : ∃ x ∈ xs, bad x := by
  induction xs with
  | nil => cases h
  | cons x rest ih =>
    rcases h with hx | ⟨_, hrest⟩
    · exact ⟨x, List.mem_cons_self, hx⟩
    · obtain ⟨y, hy, hbad⟩ := ih hrest
      exact ⟨y, List.mem_cons_of_mem _ hy, hbad⟩

theorem reaches_of_exists {α : Type} {good bad : α → Prop} {xs : List α}
    (hall : ∀ x ∈ xs, good x ∨ bad x) (h : ∃ x ∈ xs, bad x) : Reaches good bad xs := by
  induction xs with
  | nil =>
    obtain ⟨x, hx, _⟩ := h
    cases hx
  | cons x rest ih =>
    obtain ⟨hx, hrest⟩ := List.forall_mem_cons.1 hall
    obtain ⟨y, hy, hbad⟩ := h
    rcases List.mem_cons.1 hy with rfl | hy
    · exact .inl hbad
    · exact hx.elim (fun hgood => .inr ⟨hgood, ih hrest ⟨y, hy, hbad⟩⟩) .inl

namespace Expression

/-- The digits of an integer that may have blanks around it and a sign. -/
def digitsOf (cs : Text) : Text :=
  (Text.splitSign (Text.strip cs)).2

/-- An integer that is read. -/
def Readable (cs : Text) : Prop :=
  digitsOf cs ≠ [] ∧ (∀ c ∈ digitsOf cs, c.isDigit) ∧
    (digitsOf cs).length ≤ NumberFault.digitLimit

/-- An integer with more digits than are ever read. -/
def Overlong (cs : Text) : Prop :=
  (∀ c ∈ digitsOf cs, c.isDigit) ∧ NumberFault.digitLimit < (digitsOf cs).length

theorem integer_cases (whole cs : Text) :
    (Readable cs ∧ integer whole cs =
      .ok (Text.signed (Text.splitSign (Text.strip cs)).1 (Text.magnitude (digitsOf cs)))) ∨
    (Overlong cs ∧ Stuck (integer whole cs)) ∨
    ¬ Text.IsDigits (digitsOf cs) ∧
      integer whole cs = .error (.compile (.badExpression whole whole)) := by
  simp only [integer, Readable, Overlong, digitsOf]
  generalize (Text.splitSign (Text.strip cs)).1 = negative
  generalize (Text.splitSign (Text.strip cs)).2 = digits
  by_cases hdigits : Text.IsDigits digits
  · rw [Text.mapM_asciiDigit?_eq_some_iff.2 ⟨hdigits.2, rfl⟩, ← Text.ofDigits_map]
    obtain ⟨c, rest, rfl⟩ := List.exists_cons_of_ne_nil hdigits.1
    by_cases hlong : NumberFault.digitLimit < (c :: rest).length
    · refine .inr (.inl ⟨⟨hdigits.2, hlong⟩, _, if_pos ?_⟩)
      simpa using hlong
    · refine .inl ⟨⟨hdigits.1, hdigits.2, Nat.le_of_not_lt hlong⟩, if_neg ?_⟩
      simpa using hlong
  · refine .inr (.inr ⟨hdigits, ?_⟩)
    cases hmap : digits.mapM Text.asciiDigit? with
    | none => rfl
    | some ds =>
      obtain ⟨hall, rfl⟩ := Text.mapM_asciiDigit?_eq_some_iff.1 hmap
      -- all of them are digits, so there are none
      cases digits with
      | nil => rfl
      | cons c rest => exact absurd ⟨List.cons_ne_nil c rest, hall⟩ hdigits

theorem isDigits_of_readable {cs : Text} (h : Readable cs) : Text.IsDigits (digitsOf cs) :=
  ⟨h.1, h.2.1⟩

theorem isDigits_of_overlong {cs : Text} (h : Overlong cs) : Text.IsDigits (digitsOf cs) :=
  ⟨List.ne_nil_of_length_pos (Nat.zero_lt_of_lt h.2), h.1⟩

theorem not_overlong_of_readable {cs : Text} (h : Readable cs) : ¬ Overlong cs :=
  fun ho => Nat.not_lt.2 h.2.2 ho.2

theorem integer_ok_iff {whole cs : Text} : (∃ n, integer whole cs = .ok n) ↔ Readable cs := by
  rcases integer_cases whole cs with ⟨h, hn⟩ | ⟨h, f, hf⟩ | ⟨h, he⟩
  · exact iff_of_true ⟨_, hn⟩ h
  · exact iff_of_false (by simp [hf]) (fun hr => not_overlong_of_readable hr h)
  · exact iff_of_false (by simp [he]) (fun hr => h (isDigits_of_readable hr))

theorem stuck_integer_iff {whole cs : Text} : Stuck (integer whole cs) ↔ Overlong cs := by
  rcases integer_cases whole cs with ⟨h, hn⟩ | ⟨h, hf⟩ | ⟨h, he⟩
  · exact iff_of_false (by simp [hn]) (not_overlong_of_readable h)
  · exact iff_of_true hf h
  · exact iff_of_false (by simp [he]) (fun ho => h (isDigits_of_overlong ho))

/-- Of a range the second integer is only read if the first one is. -/
def FaultyText (s : Text) : Prop :=
  match splitComparison? (Text.strip s) with
  | some (_, amount) => Overlong amount
  | none =>
    match splitRange? (Text.strip s) with
    | some (low, high) => Overlong low ∨ Readable low ∧ Overlong high
    | none => Overlong (Text.strip s)

/-- No error of a rule, and still no expression. -/
def Faulty : Json → Prop
  | .float d => d.isFinite = false
  | .str s => FaultyText s
  | _ => False

def Reads (v : Json) : Prop := ∃ e, ofJson v = .ok e

theorem stuck_bind_integer {α : Type} {whole cs : Text} {g : Int → α} :
    Stuck (integer whole cs >>= fun n => .ok (g n)) ↔ Overlong cs := by
  simp [stuck_bind, stuck_integer_iff]

theorem stuck_parse_iff {s : Text} : Stuck (parse s) ↔ FaultyText s := by
  cases hc : splitComparison? (Text.strip s) with
  | some sign =>
    simp only [parse, FaultyText, hc]
    exact stuck_bind_integer
  | none =>
    cases hr : splitRange? (Text.strip s) with
    | some ends =>
      simp only [parse, FaultyText, hc, hr, stuck_bind, stuck_integer_iff,
        ← @integer_ok_iff s]
      simp
    | none =>
      simp only [parse, FaultyText, hc, hr]
      exact stuck_bind_integer

theorem stuck_ofDouble_iff {d : Double} : Stuck (ofDouble d) ↔ d.isFinite = false := by
  cases d <;> simp [ofDouble, Double.truncate, Double.isFinite]

theorem stuck_ofJson_iff {v : Json} : Stuck (ofJson v) ↔ Faulty v := by
  cases v with
  | float d => exact stuck_ofDouble_iff
  | str s => exact stuck_parse_iff
  | _ => simp [ofJson, Faulty]

end Expression

/-- The computation reads the values one after another and does nothing else that may fail. -/
structure Follows {α : Type} (x : Except Failure α) (vs : List Json) : Prop where
  ok_iff : (∃ a, x = .ok a) ↔ ∀ v ∈ vs, Expression.Reads v
  stuck_iff : Stuck x ↔ Reaches Expression.Reads Expression.Faulty vs

namespace Follows

variable {α β : Type}

theorem pure (a : α) : Follows (Pure.pure a) [] where
  ok_iff := iff_of_true ⟨a, rfl⟩ (by simp)
  stuck_iff := iff_of_false (not_stuck_ok a) (by simp [Reaches])

theorem bind {x : Except Failure α} {g : α → Except Failure β} {vs ws : List Json}
    (hx : Follows x vs) (hg : ∀ a, Follows (g a) ws) : Follows (x >>= g) (vs ++ ws) where
  ok_iff := by
    simp only [Except.bind_eq_ok_iff, List.forall_mem_append, ← hx.ok_iff]
    constructor
    · rintro ⟨b, a, ha, hb⟩
      exact ⟨⟨a, ha⟩, (hg a).ok_iff.1 ⟨b, hb⟩⟩
    · rintro ⟨⟨a, ha⟩, hws⟩
      obtain ⟨b, hb⟩ := (hg a).ok_iff.2 hws
      exact ⟨b, a, ha, hb⟩
  stuck_iff := by
    rw [stuck_bind, reaches_append, ← hx.stuck_iff, ← hx.ok_iff]
    apply or_congr_right
    constructor
    · rintro ⟨a, ha, hs⟩
      exact ⟨⟨a, ha⟩, (hg a).stuck_iff.1 hs⟩
    · rintro ⟨⟨a, ha⟩, hs⟩
      exact ⟨a, ha, (hg a).stuck_iff.2 hs⟩

theorem map {x : Except Failure α} {vs : List Json} (hx : Follows x vs) (g : α → β) :
    Follows (x.map g) vs where
  ok_iff := by
    rw [← hx.ok_iff]
    cases x <;> simp [Except.map]
  stuck_iff := by rw [stuck_map, hx.stuck_iff]

theorem ofJson (v : Json) : Follows (Expression.ofJson v) [v] where
  ok_iff := by simp [Expression.Reads]
  stuck_iff := by simp [Expression.stuck_ofJson_iff, Reaches]

end Follows

/-- A value as a list, unless it is null and stands for nothing. -/
def Json.given : Json → List Json
  | .null => []
  | v => [v]

theorem Expression.follows_optional (v : Json) : Follows (optional v) v.given := by
  have hgiven (hv : v ≠ .null) : optional v = (ofJson v).map some ∧ v.given = [v] := by
    cases v <;> simp [optional, Json.given] at hv ⊢
  by_cases hv : v = .null
  · subst hv
    exact .pure none
  · rw [(hgiven hv).1, (hgiven hv).2]
    exact (Follows.ofJson v).map some

namespace TagDescriptor

mutual

def values : TagDescriptor → List Json
  | ⟨_, _, some children⟩ => valuesOf children
  | ⟨_, v, none⟩ => [v]

def valuesOf : List TagDescriptor → List Json
  | [] => []
  | d :: rest => d.values ++ valuesOf rest

end

end TagDescriptor

namespace TagTest

theorem follows_bareTag (tag : Text) :
    Follows (.error (.compile (.bareTag tag)) : Except Failure TagTest) [.null] where
  ok_iff := by simp [Expression.Reads, Expression.ofJson]
  stuck_iff := by simp [Reaches, Expression.Faulty]

theorem follows_value (tag : Text) (v : Json) : Follows (compile ⟨tag, v, none⟩) [v] := by
  cases v with
  -- a test of nothing is refused, and null is no expression either
  | null => exact follows_bareTag tag
  | _ => exact (Follows.ofJson _).bind fun e => .pure (value tag e)

mutual

theorem follows_compile (d : TagDescriptor) : Follows (compile d) d.values := by
  match d with
  | ⟨tag, v, none⟩ => exact follows_value tag v
  | ⟨tag, v, some children⟩ =>
    have h := (follows_compileAll children).bind fun tests => .pure (contains tag tests)
    simpa only [compile, TagDescriptor.values, List.append_nil] using h

theorem follows_compileAll (ds : List TagDescriptor) :
    Follows (compileAll ds) (TagDescriptor.valuesOf ds) := by
  match ds with
  | [] => exact .pure []
  | d :: rest =>
    have h := (follows_compile d).bind fun t =>
      (follows_compileAll rest).bind fun ts => .pure (t :: ts)
    simpa only [compileAll, TagDescriptor.valuesOf, List.append_nil] using h

end

end TagTest
end RuleGate
