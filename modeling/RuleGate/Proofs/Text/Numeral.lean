import Mathlib.Data.Nat.Digits.Defs
import RuleGate.Proofs.Text.Split
import RuleGate.Text.Digit

/-!
# Decimal numerals

A numeral is an optional sign and one or more ASCII digits, and means the integer that it writes.
Blanks may stand around it: they are what trimming takes away (`padded_iff`). A minus inside a
padded numeral has nothing but blanks in front (`Padded.forall_isBlank_of_minus`), which is what
tells the sign of a number from a minus between two numbers. Every integer is written by a numeral
(`numeral_toString`).
-/

namespace RuleGate.Text

def IsDigits (t : Text) : Prop :=
  t ≠ [] ∧ ∀ c ∈ t, c.isDigit

/-- The number that digits write, the last of them counting ones. -/
def magnitude (t : Text) : Nat :=
  Nat.ofDigits 10 (t.reverse.map fun c => c.toNat - 0x30)

inductive Numeral : Text → Int → Prop
  | bare {t : Text} (h : IsDigits t) : Numeral t (magnitude t)
  | plus {t : Text} (h : IsDigits t) : Numeral ('+' :: t) (magnitude t)
  | minus {t : Text} (h : IsDigits t) : Numeral ('-' :: t) (-(magnitude t : Int))

/-- A numeral with blanks around it. -/
def Padded (t : Text) (n : Int) : Prop :=
  ∃ left body right, t = left ++ body ++ right ∧ (∀ c ∈ left, isBlank c) ∧
    (∀ c ∈ right, isBlank c) ∧ Numeral body n

/-- Nowhere are there more digits in a row than are ever read. -/
def Short (t : Text) : Prop :=
  ∀ run, run <:+: t → (∀ c ∈ run, c.isDigit) → run.length ≤ NumberFault.digitLimit

theorem Short.mono {t u : Text} (h : Short t) (hu : u <:+: t) : Short u :=
  fun run hrun => h run (hrun.trans hu)

theorem short_of_length_le {t : Text} (h : t.length ≤ NumberFault.digitLimit) : Short t :=
  fun _ hrun _ => hrun.length_le.trans h

theorem toNat_of_isDigit {c : CodePoint} (h : c.isDigit) : 0x30 ≤ c.toNat ∧ c.toNat ≤ 0x39 := by
  cases c with
  | half n => cases h
  | char c =>
    have hrange : 48 ≤ c.toNat ∧ c.toNat ≤ 57 := by
      simpa [CodePoint.isDigit, Char.isDigit, UInt32.le_iff_toNat_le] using h
    exact hrange

theorem toNat_of_isBlank {c : CodePoint} (h : isBlank c) : c.toNat ≤ 0x20 ∨ 0x85 ≤ c.toNat := by
  simp only [isBlank, isSpace, within, spaceRanges, List.any_cons, List.any_nil, Bool.or_eq_true,
    Bool.and_eq_true, decide_eq_true_eq, Bool.or_false] at h
  omega

theorem isBlank_of_isDigit {c : CodePoint} (h : c.isDigit) : isBlank c = false := by
  have hdigit := toNat_of_isDigit h
  rw [← Bool.not_eq_true]
  intro hblank
  have hrange := toNat_of_isBlank hblank
  omega

theorem IsDigits.cons_ne {t : Text} (h : IsDigits t) {c : CodePoint} (hc : c.isDigit = false)
    (rest : Text) : t ≠ c :: rest := by
  rintro rfl
  have hdigit := h.2 c List.mem_cons_self
  rw [hc] at hdigit
  cases hdigit

namespace Numeral

variable {t : Text} {n : Int}

theorem ne_nil (h : Numeral t n) : t ≠ [] := by
  cases h with
  | bare h => exact h.1
  | plus h => exact List.cons_ne_nil _ _
  | minus h => exact List.cons_ne_nil _ _

theorem mem_cases (h : Numeral t n) {c : CodePoint} (hc : c ∈ t) :
    c.isDigit ∨ c = '+' ∨ c = '-' := by
  cases h with
  | bare h => exact .inl (h.2 c hc)
  | plus h =>
    rcases List.mem_cons.1 hc with rfl | hc
    · exact .inr (.inl rfl)
    · exact .inl (h.2 c hc)
  | minus h =>
    rcases List.mem_cons.1 hc with rfl | hc
    · exact .inr (.inr rfl)
    · exact .inl (h.2 c hc)

theorem not_isBlank (h : Numeral t n) : ∀ c ∈ t, isBlank c = false := by
  intro c hc
  rcases h.mem_cases hc with hdigit | rfl | rfl
  · exact isBlank_of_isDigit hdigit
  · decide
  · decide

/-- A numeral is what is left of its sign, read as digits. -/
theorem iff_splitSign : Numeral t n ↔
    IsDigits (splitSign t).2 ∧ n = signed (splitSign t).1 (magnitude (splitSign t).2) := by
  constructor
  · rintro (h | h | h)
    · have hminus := h.cons_ne (c := '-') rfl
      have hplus := h.cons_ne (c := '+') rfl
      have hsplit : splitSign t = (false, t) := by
        unfold splitSign
        split
        · exact absurd rfl (hminus _)
        · exact absurd rfl (hplus _)
        · rfl
      rw [hsplit]
      exact ⟨h, rfl⟩
    · exact ⟨h, rfl⟩
    · exact ⟨h, rfl⟩
  · rintro ⟨h, rfl⟩
    unfold splitSign at h ⊢
    split at h
    · exact .minus h
    · exact .plus h
    · exact .bare h

theorem isDigit_of_mem_tail {c : CodePoint} (h : Numeral (c :: t) n) : ∀ d ∈ t, d.isDigit := by
  cases h with
  | bare h => exact fun d hd => h.2 d (List.mem_cons_of_mem c hd)
  | plus h => exact h.2
  | minus h => exact h.2

theorem unique {m : Int} (h : Numeral t n) (h' : Numeral t m) : n = m :=
  (iff_splitSign.1 h).2.trans (iff_splitSign.1 h').2.symm

end Numeral

variable {t : Text} {n : Int}

theorem padded_iff : Padded t n ↔ Numeral (strip t) n := by
  constructor
  · rintro ⟨left, body, right, rfl, hleft, hright, h⟩
    have hstrip : strip (left ++ body ++ right) = body :=
      trim_append_of_all h.ne_nil hleft h.not_isBlank hright
    rwa [hstrip]
  · intro h
    obtain ⟨left, right, ht, hleft, hright⟩ := exists_eq_append_trim isBlank t
    exact ⟨left, strip t, right, ht, hleft, hright, h⟩

theorem Numeral.padded (h : Numeral t n) : Padded t n :=
  ⟨[], t, [], by simp, by simp, by simp, h⟩

namespace Padded

theorem exists_not_isBlank (h : Padded t n) : ∃ c ∈ t, isBlank c = false := by
  obtain ⟨left, body, right, rfl, _, _, hbody⟩ := h
  obtain ⟨c, hc⟩ := List.exists_mem_of_ne_nil body hbody.ne_nil
  exact ⟨c, by simp [hc], hbody.not_isBlank c hc⟩

theorem mem_cases (h : Padded t n) {c : CodePoint} (hc : c ∈ t) :
    isBlank c ∨ c.isDigit ∨ c = '+' ∨ c = '-' := by
  obtain ⟨left, body, right, rfl, hleft, hright, hbody⟩ := h
  rw [List.mem_append, List.mem_append] at hc
  rcases hc with (hc | hc) | hc
  · exact .inl (hleft c hc)
  · exact .inr (hbody.mem_cases hc)
  · exact .inl (hright c hc)

theorem unique {m : Int} (h : Padded t n) (h' : Padded t m) : n = m :=
  (padded_iff.1 h).unique (padded_iff.1 h')

/-- The minus of a numeral is its sign: digits and blanks come after it. -/
theorem forall_isBlank_of_minus {u v : Text} (h : Padded (u ++ ('-' : CodePoint) :: v) n) :
    ∀ c ∈ u, isBlank c := by
  obtain ⟨left, body, right, heq, hleft, hright, hbody⟩ := h
  rw [List.append_assoc, List.append_eq_append_iff] at heq
  rcases heq with ⟨w, rfl, _⟩ | ⟨w, rfl, hw⟩
  · exact fun c hc => hleft c (List.mem_append_left w hc)
  · cases w with
    | nil => simpa using hleft
    | cons c w =>
      cases body with
      | nil => exact absurd rfl hbody.ne_nil
      | cons b body =>
        have hrest : body ++ right = w ++ ('-' : CodePoint) :: v := (List.cons.inj hw).2
        have hminus : ('-' : CodePoint) ∈ body ++ right := by
          rw [hrest]
          exact List.mem_append_right w List.mem_cons_self
        rcases List.mem_append.1 hminus with hmem | hmem
        · exact absurd (hbody.isDigit_of_mem_tail _ hmem) (by decide)
        · exact absurd (hright _ hmem) (by decide)

end Padded

theorem mapM_asciiDigit?_eq_some_iff {ds : List Nat} : t.mapM asciiDigit? = some ds ↔
    (∀ c ∈ t, c.isDigit) ∧ ds = t.map fun c => c.toNat - 0x30 := by
  induction t generalizing ds with
  | nil => exact ⟨fun h => ⟨by simp, (Option.some.inj h).symm⟩, fun h => h.2 ▸ rfl⟩
  | cons c rest ih =>
    by_cases hc : c.isDigit
    · have hdigit : asciiDigit? c = some (c.toNat - 0x30) := if_pos hc
      simp only [List.mapM_cons, hdigit, Option.bind_eq_bind, Option.bind_some,
        Option.bind_eq_some_iff, Option.pure_def, Option.some.injEq, ih, List.forall_mem_cons, hc,
        true_and, List.map_cons]
      constructor
      · rintro ⟨_, ⟨hrest, rfl⟩, rfl⟩
        exact ⟨hrest, rfl⟩
      · rintro ⟨hrest, rfl⟩
        exact ⟨_, ⟨hrest, rfl⟩, rfl⟩
    · have hdigit : asciiDigit? c = none := if_neg hc
      simp [hdigit, hc]

theorem isDigits_toDigits (m : Nat) : IsDigits (ofList (Nat.toDigits 10 m)) := by
  refine ⟨?_, ?_⟩
  · intro h
    exact Nat.toDigits_ne_nil (List.map_eq_nil_iff.1 h)
  · intro c hc
    obtain ⟨d, hd, rfl⟩ := List.mem_map.1 hc
    exact Nat.isDigit_of_mem_toDigits (by decide) (by decide) hd

theorem magnitude_eq_foldl (t : Text) :
    magnitude t = t.foldl (fun n c => 10 * n + (c.toNat - 0x30)) 0 := by
  rw [magnitude, Nat.ofDigits_eq_foldr, List.foldr_map, List.foldr_reverse]
  simp only [Nat.cast_id, Nat.add_comm]

theorem ofDigits_map (t : Text) : ofDigits (t.map fun c => c.toNat - 0x30) = magnitude t := by
  rw [magnitude_eq_foldl, ofDigits, List.foldl_map]

theorem magnitude_toDigits (m : Nat) : magnitude (ofList (Nat.toDigits 10 m)) = m := by
  have hfold := Nat.ofDigitChars_toDigits (b := 10) (n := m) (by decide) (by decide)
  rw [Nat.ofDigitChars_eq_foldl] at hfold
  rw [magnitude_eq_foldl, ofList, List.foldl_map]
  exact hfold

theorem ofString_toString_ofNat (m : ℕ) :
    ofString (toString (Int.ofNat m)) = ofList (Nat.toDigits 10 m) := by
  change ofString m.repr = _
  rw [ofString, Nat.toList_repr]

theorem ofString_toString_negSucc (m : ℕ) : ofString (toString (Int.negSucc m)) =
    ('-' : CodePoint) :: ofList (Nat.toDigits 10 (m + 1)) := by
  rw [← ofString_toString_ofNat]
  simp [ofString, ofList, toString, Int.repr]

theorem numeral_toString (a : Int) : Numeral (toString a : String) a := by
  cases a with
  | ofNat m =>
    have hbare := Numeral.bare (isDigits_toDigits m)
    rw [magnitude_toDigits] at hbare
    exact ofString_toString_ofNat m ▸ hbare
  | negSucc m =>
    have hminus := Numeral.minus (isDigits_toDigits (m + 1))
    rw [magnitude_toDigits] at hminus
    exact ofString_toString_negSucc m ▸ hminus

end RuleGate.Text
