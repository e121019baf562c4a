import RuleGate.Proofs.Descriptor.Numbers
import RuleGate.Rule.Expression

/-!
# The texts of expressions

A text is taken apart into a sign of comparison and an integer, two integers with a minus between
them, or one integer (`Parts`), and each way of taking it apart has a meaning if its integers are
numerals, with blanks around them or not (`Parts.Means`). No text can be taken apart in two ways
that both have a meaning (`Parts.eq_of_means`), and an expression is read exactly from the texts
that have one (`parse_means`). Texts with more digits in a row than are ever read are left aside.
-/

namespace RuleGate

open Text (Numeral Padded Short isBlank strip)

def Comparison.symbols : Comparison → List Text
  | ge => [">="]
  | gt => [">"]
  | le => ["<="]
  | ne => ["<>", "!="]
  | lt => ["<"]
  | eq => ["="]

def Comparison.Relates (a b : Int) : Comparison → Prop
  | ge => a ≥ b
  | gt => a > b
  | le => a ≤ b
  | ne => a ≠ b
  | lt => a < b
  | eq => a = b

theorem Comparison.holds_iff {op : Comparison} {a b : Int} :
    op.holds a b = true ↔ op.Relates a b := by
  cases op <;> simp [holds, Relates]

namespace Expression

inductive Parts
  | compare (sign : Text) (op : Comparison) (body : Text)
  | range (low high : Text)
  | bare (body : Text)

namespace Parts

def text : Parts → Text
  | compare sign _ body => sign ++ body
  | range low high => low ++ ('-' : CodePoint) :: high
  | bare body => body

/-- The integers for which the parts stand, if they stand for any. -/
inductive Means : Parts → (Int → Prop) → Prop
  | compare {sign : Text} {op : Comparison} {body : Text} {amount : Int}
      (hsign : sign ∈ op.symbols) (hbody : Padded body amount) :
      Means (.compare sign op body) (fun n => op.Relates n amount)
  | range {low high : Text} {a b : Int} (hlow : Padded low a) (hhigh : Padded high b) :
      Means (.range low high) (fun n => a ≤ n ∧ n ≤ b)
  | bare {body : Text} {amount : Int} (hbody : Padded body amount) :
      Means (.bare body) (fun n => n = amount)

theorem Means.unique {p : Parts} {P Q : Int → Prop} (h : p.Means P) (h' : p.Means Q) : P = Q := by
  cases h with
  | compare _ hbody =>
    cases h' with
    | compare _ hbody' => rw [hbody.unique hbody']
  | range hlow hhigh =>
    cases h' with
    | range hlow' hhigh' => rw [hlow.unique hlow', hhigh.unique hhigh']
  | bare hbody =>
    cases h' with
    | bare hbody' => rw [hbody.unique hbody']

/-- How a text is taken apart: at the first sign that it begins with, else at the first minus that
is not in front. -/
def of (t : Text) : Parts :=
  match signs.find? fun s => s.1.isPrefixOf t with
  | some (sign, op) => .compare sign op (t.drop sign.length)
  | none =>
    match splitRange? t with
    | some (low, high) => .range low high
    | none => .bare t

def read (whole : Text) : Parts → Except Failure Expression
  | compare _ op body => do
    let amount ← integer whole body
    return .compare op amount
  | range low high => do
    let low ← integer whole low
    let high ← integer whole high
    return .between low high
  | bare body => do
    let amount ← integer whole body
    return .compare .eq amount

end Parts

theorem mem_signs_iff {sign : Text} {op : Comparison} :
    (sign, op) ∈ signs ↔ sign ∈ op.symbols := by
  cases op <;> simp [signs, Comparison.symbols]

theorem splitComparison?_eq (t : Text) :
    splitComparison? t =
      (signs.find? fun s => s.1.isPrefixOf t).map fun s => (s.2, t.drop s.1.length) := by
  unfold splitComparison?
  induction signs with
  | nil => rfl
  | cons s rest ih =>
    rw [List.findSome?_cons, List.find?_cons]
    cases s.1.isPrefixOf t with
    | true => rfl
    | false => exact ih

theorem parse_eq_read (s : Text) : parse s = (Parts.of (strip s)).read s := by
  unfold parse Parts.of
  simp only [splitComparison?_eq]
  cases signs.find? fun sign => sign.1.isPrefixOf (strip s) with
  | some found => rfl
  | none =>
    cases splitRange? (strip s) with
    | some ends => rfl
    | none => rfl

theorem not_mem_of_padded {t : Text} {n : Int} (h : Padded t n) {c : CodePoint}
    (hc : c = '<' ∨ c = '>' ∨ c = '=' ∨ c = '!') : c ∉ t := by
  intro hmem
  have hcases := h.mem_cases hmem
  rcases hc with rfl | rfl | rfl | rfl <;> exact absurd hcases (by decide)

theorem isPrefixOf_cons_of_not_mem {c : CodePoint} {t : Text} (h : c ∉ t) (u : Text) :
    (c :: u).isPrefixOf t = false := by
  cases t with
  | nil => rfl
  | cons d rest =>
    have hne : c ≠ d := fun heq => h (heq ▸ List.mem_cons_self)
    simp [List.isPrefixOf, hne]

theorem find?_signs {sign body : Text} {op : Comparison} (hsign : sign ∈ op.symbols) {n : Int}
    (hbody : Padded body n) :
    signs.find? (fun s => s.1.isPrefixOf (sign ++ body)) = some (sign, op) := by
  have hequal := isPrefixOf_cons_of_not_mem (not_mem_of_padded hbody (c := '=') (by simp)) []
  have hgreater := isPrefixOf_cons_of_not_mem (not_mem_of_padded hbody (c := '>') (by simp)) []
  cases op <;> simp only [Comparison.symbols, List.mem_cons, List.not_mem_nil, or_false] at hsign
  case ne =>
    rcases hsign with rfl | rfl
    · rfl
    · rfl
  all_goals subst hsign
  case ge => rfl
  case le => rfl
  case eq => rfl
  case gt => simp [signs, Text.ofString, Text.ofList, hequal]
  case lt => simp [signs, Text.ofString, Text.ofList, hequal, hgreater]

theorem find?_signs_of_head {c : CodePoint} (rest : Text)
    (hc : ¬ (c = '<' ∨ c = '>' ∨ c = '=' ∨ c = '!')) :
    signs.find? (fun s => s.1.isPrefixOf (c :: rest)) = none := by
  simp only [not_or] at hc
  obtain ⟨hless, hgreater, hequal, hnot⟩ := hc
  simp [signs, Text.ofString, Text.ofList, Ne.symm hless, Ne.symm hgreater, Ne.symm hequal,
    Ne.symm hnot]

/-- A padded integer in front of a stripped text begins it, and has no further minus. -/
theorem not_minus_mem_of_padded {c : CodePoint} {rest : Text} (hc : isBlank c = false) {n : Int}
    (h : Padded (c :: rest) n) : ('-' : CodePoint) ∉ rest := by
  intro hminus
  obtain ⟨u, v, rfl⟩ := List.append_of_mem hminus
  have hblank := h.forall_isBlank_of_minus (u := c :: u) c List.mem_cons_self
  rw [hc] at hblank
  cases hblank

theorem head_of_strip {c : CodePoint} {rest : Text} (h : strip (c :: rest) = c :: rest) :
    isBlank c = false := by
  have hdrop := Text.dropWhile_trim isBlank (c :: rest)
  rw [show Text.trim isBlank (c :: rest) = c :: rest from h] at hdrop
  rw [List.dropWhile_eq_self_iff] at hdrop
  simpa using hdrop (Nat.succ_pos _)

namespace Parts

theorem of_of_padded {c : CodePoint} {rest : Text} {n : Int} (h : Padded (c :: rest) n)
    (tail : Text) : of (c :: rest ++ tail) =
      match splitRange? (c :: rest ++ tail) with
      | some (low, high) => .range low high
      | none => .bare (c :: rest ++ tail) := by
  have hhead : ¬ (c = '<' ∨ c = '>' ∨ c = '=' ∨ c = '!') := fun hc =>
    not_mem_of_padded h hc List.mem_cons_self
  rw [of, List.cons_append, find?_signs_of_head _ hhead]

/-- Parts that have a meaning are those into which the text is taken apart. -/
theorem eq_of_means {p : Parts} {P : Int → Prop} (h : p.Means P) (hstrip : strip p.text = p.text) :
    p = of p.text := by
  cases h with
  | compare hsign hbody =>
    rw [text, of, find?_signs hsign hbody]
    simp
  | @range low high a b hlow hhigh =>
    cases low with
    | nil => exact absurd hlow.exists_not_isBlank (by simp)
    | cons c rest =>
      have hminus := not_minus_mem_of_padded (head_of_strip hstrip) hlow
      rw [text, of_of_padded hlow, List.cons_append, splitRange?, Text.splitAt_append hminus]
  | @bare body n hbody =>
    cases body with
    | nil => exact absurd hbody.exists_not_isBlank (by simp)
    | cons c rest =>
      have hminus := not_minus_mem_of_padded (head_of_strip hstrip) hbody
      have hof := of_of_padded hbody []
      rw [List.append_nil, splitRange?, Text.splitAt_of_not_mem hminus] at hof
      exact hof.symm

theorem text_of (t : Text) : (of t).text = t := by
  unfold of
  split
  case h_1 sign op hfind =>
    have hprefix := List.find?_some hfind
    exact List.prefix_iff_eq_append.1 (List.isPrefixOf_iff_prefix.1 hprefix)
  case h_2 =>
    split
    case h_1 low high hrange =>
      cases t with
      | nil => cases hrange
      | cons c rest =>
        rw [splitRange?] at hrange
        split at hrange
        case h_1 front back hsplit =>
          obtain ⟨rfl, rfl⟩ := Prod.mk.inj (Option.some.inj hrange)
          rw [Text.eq_append_of_splitAt hsplit]
          rfl
        case h_2 => cases hrange
    case h_2 => rfl

/-- The comparison is the one that its sign stands for. -/
def Signed : Parts → Prop
  | compare sign op _ => sign ∈ op.symbols
  | _ => True

theorem signed_of (t : Text) : (of t).Signed := by
  unfold of
  split
  case h_1 sign op hfind => exact mem_signs_iff.1 (List.mem_of_find?_eq_some hfind)
  case h_2 => split <;> trivial

end Parts

theorem integer_of_short {cs : Text} (hshort : Short cs) (whole : Text) :
    (∃ n, Padded cs n ∧ integer whole cs = .ok n) ∨
      (∀ n, ¬ Padded cs n) ∧ integer whole cs = .error (.compile (.badExpression whole whole)) := by
  simp only [Text.padded_iff, Text.Numeral.iff_splitSign]
  rcases integer_cases whole cs with ⟨hread, hn⟩ | ⟨hover, _⟩ | ⟨hnot, herror⟩
  · exact .inl ⟨_, ⟨isDigits_of_readable hread, rfl⟩, hn⟩
  · have hpart : digitsOf cs <:+: cs :=
      (Text.splitSign_suffix _).isInfix.trans (Text.strip_infix cs)
    exact absurd (hshort _ hpart hover.1) (Nat.not_le.2 hover.2)
  · exact .inr ⟨fun _ hn => hnot hn.1, herror⟩

/-- Parts are read exactly if they have a meaning. -/
theorem Parts.read_of_short {p : Parts} (hsigned : p.Signed) (hshort : Short p.text)
    (whole : Text) :
    (∃ P e, p.Means P ∧ p.read whole = .ok e ∧ ∀ n, e.holds n = true ↔ P n) ∨
      (∀ P, ¬ p.Means P) ∧ p.read whole = .error (.compile (.badExpression whole whole)) := by
  cases p with
  | compare sign op body =>
    have hbody := hshort.mono (List.suffix_append sign body).isInfix
    rcases integer_of_short hbody whole with ⟨amount, hamount, hread⟩ | ⟨hnot, hread⟩
    · refine .inl ⟨_, .compare op amount, .compare hsigned hamount, ?_, ?_⟩
      · rw [read, hread, Except.ok_bind, Except.pure_eq_ok]
      · exact fun n => Comparison.holds_iff
    · refine .inr ⟨?_, ?_⟩
      · intro P h
        cases h with
        | compare _ hbody => exact hnot _ hbody
      · rw [read, hread, Except.error_bind]
  | range low high =>
    have hlow := hshort.mono (List.prefix_append low _).isInfix
    have hhigh : Short high :=
      hshort.mono ((List.suffix_cons _ high).trans (List.suffix_append low _)).isInfix
    rcases integer_of_short hlow whole with ⟨a, ha, hreadLow⟩ | ⟨hnot, hread⟩
    · rcases integer_of_short hhigh whole with ⟨b, hb, hreadHigh⟩ | ⟨hnot, hread⟩
      · refine .inl ⟨_, .between a b, .range ha hb, ?_, ?_⟩
        · rw [read, hreadLow, Except.ok_bind, hreadHigh, Except.ok_bind, Except.pure_eq_ok]
        · simp [holds]
      · refine .inr ⟨?_, ?_⟩
        · intro P h
          cases h with
          | range _ hb => exact hnot _ hb
        · rw [read, hreadLow, Except.ok_bind, hread, Except.error_bind]
    · refine .inr ⟨?_, ?_⟩
      · intro P h
        cases h with
        | range ha _ => exact hnot _ ha
      · rw [read, hread, Except.error_bind]
  | bare body =>
    have hbody : Short body := hshort
    rcases integer_of_short hbody whole with ⟨amount, hamount, hread⟩ | ⟨hnot, hread⟩
    · refine .inl ⟨_, .compare .eq amount, .bare hamount, ?_, ?_⟩
      · rw [read, hread, Except.ok_bind, Except.pure_eq_ok]
      · exact fun n => @Comparison.holds_iff .eq n _
    · refine .inr ⟨?_, ?_⟩
      · intro P h
        cases h with
        | bare hbody => exact hnot _ hbody
      · rw [read, hread, Except.error_bind]

/-- A text is read exactly if it can be taken apart into parts with a meaning. It can only be taken
apart in one way, and the expression holds for the integers that are meant. -/
structure Understood (s : Text) : Prop where
  accepts : (∃ e, parse s = .ok e) ↔ ∃ p : Parts, p.text = strip s ∧ ∃ P, p.Means P
  refuses : (∀ (p : Parts) P, p.text = strip s → ¬ p.Means P) →
    parse s = .error (.compile (.badExpression s s))
  unique : ∀ (p q : Parts) P Q, p.text = strip s → p.Means P → q.text = strip s → q.Means Q →
    p = q ∧ P = Q
  holds_iff : ∀ (p : Parts) P, p.text = strip s → p.Means P →
    ∃ e, parse s = .ok e ∧ ∀ n, e.holds n = true ↔ P n
  /-- A minus between two integers is no sign of either, whatever their own signs are. -/
  range : ∀ a b : Int,
    s = Text.ofString (toString a) ++ ('-' : CodePoint) :: Text.ofString (toString b) →
      ∃ e, parse s = .ok e ∧ ∀ n, e.holds n = true ↔ a ≤ n ∧ n ≤ b
  number : ∀ a : Int, s = Text.ofString (toString a) →
    ∃ e, parse s = .ok e ∧ ∀ n, e.holds n = true ↔ n = a

theorem parse_cases {s : Text} (hshort : Short s) :
    (∃ P e, (Parts.of (strip s)).Means P ∧ parse s = .ok e ∧ ∀ n, e.holds n = true ↔ P n) ∨
      (∀ P, ¬ (Parts.of (strip s)).Means P) ∧
        parse s = .error (.compile (.badExpression s s)) := by
  have hpart : Short (Parts.of (strip s)).text := by
    rw [Parts.text_of]
    exact hshort.mono (Text.strip_infix s)
  have hread := Parts.read_of_short (Parts.signed_of (strip s)) hpart s
  rwa [← parse_eq_read] at hread

theorem Parts.eq_of_strip {s : Text} {p : Parts} {P : Int → Prop} (htext : p.text = strip s)
    (h : p.Means P) : p = of (strip s) := by
  have hstrip : strip p.text = p.text := by
    rw [htext]
    exact Text.trim_trim isBlank s
  rw [← htext]
  exact eq_of_means h hstrip

theorem parse_of_means {s : Text} (hshort : Short s) {p : Parts} {P : Int → Prop}
    (htext : p.text = strip s) (h : p.Means P) :
    ∃ e, parse s = .ok e ∧ ∀ n, e.holds n = true ↔ P n := by
  obtain rfl := Parts.eq_of_strip htext h
  rcases parse_cases hshort with ⟨Q, e, hQ, he, hholds⟩ | ⟨hnot, -⟩
  · rw [h.unique hQ]
    exact ⟨e, he, hholds⟩
  · exact absurd h (hnot P)

theorem parse_means {s : Text} (hshort : Short s) : Understood s where
  accepts := by
    constructor
    · rintro ⟨e, he⟩
      rcases parse_cases hshort with ⟨P, -, hP, -⟩ | ⟨-, herror⟩
      · exact ⟨_, Parts.text_of _, P, hP⟩
      · cases he.symm.trans herror
    · rintro ⟨p, htext, P, hP⟩
      obtain ⟨e, he, -⟩ := parse_of_means hshort htext hP
      exact ⟨e, he⟩
  refuses hnone := by
    rcases parse_cases hshort with ⟨P, -, hP, -⟩ | ⟨-, herror⟩
    · exact absurd hP (hnone _ P (Parts.text_of _))
    · exact herror
  unique p q P Q hp hP hq hQ := by
    obtain rfl := Parts.eq_of_strip hp hP
    obtain rfl := Parts.eq_of_strip hq hQ
    exact ⟨rfl, hP.unique hQ⟩
  holds_iff p P htext hP := parse_of_means hshort htext hP
  range a b hs := by
    have ha := Text.numeral_toString a
    have hb := Text.numeral_toString b
    have hblank : ∀ c ∈ s, isBlank c = false := by
      rw [hs]
      intro c hc
      rcases List.mem_append.1 hc with hc | hc
      · exact ha.not_isBlank c hc
      · rcases List.mem_cons.1 hc with rfl | hc
        · decide
        · exact hb.not_isBlank c hc
    have hstrip : strip s = s := Text.strip_of_not_isBlank (by simp [hs]) hblank
    exact parse_of_means hshort (p := .range _ _) (by rw [hstrip, hs]; rfl)
      (.range ha.padded hb.padded)
  number a hs := by
    have ha := Text.numeral_toString a
    have hstrip : strip s = s := by
      rw [hs]
      exact Text.strip_of_not_isBlank ha.ne_nil ha.not_isBlank
    exact parse_of_means hshort (p := .bare s) hstrip.symm (.bare (hs ▸ ha.padded))

theorem parse_means_range :
    Short " -5 --3" ∧ parse " -5 --3" = .ok (.between (-5) (-3)) ∧ Understood " -5 --3" :=
  have hshort : Short " -5 --3" := Text.short_of_length_le (by decide)
  ⟨hshort, rfl, parse_means hshort⟩

end Expression
end RuleGate
