import RuleGate.Proofs.Text.Numeral

/-!
# Reading integers

A numeral is read as the integer that it writes (`Text.integer?_of_numeral`), so every integer of
not too many digits is read back from its text (`Text.integer?_toString`). Whatever text is read as
an integer, no slash stands in it (`Text.slash_notMem_of_integer?`), and blanks at its end make no
difference (`Text.integer?_rdropWhile`).
-/

namespace RuleGate.Text

variable {c : CodePoint} {t : Text} {n : ℕ} {d : ℤ}

theorem decimalDigit?_of_isDigit (h : c.isDigit) : decimalDigit? c = some (c.toNat - 0x30) := by
  have hrange := toNat_of_isDigit h
  have hfind : (digitRanges.find? fun r => r.1 ≤ c.toNat && c.toNat ≤ r.2) = some (0x30, 0x39) :=
    List.find?_cons_of_pos (by simpa using hrange)
  rw [decimalDigit?, hfind, Option.map_some, Nat.mod_eq_of_lt (by omega)]

theorem groupedDigits?_of_isDigits (h : IsDigits t) :
    groupedDigits? decimalDigit? t = some (t.map fun c => c.toNat - 0x30) := by
  obtain ⟨hne, hdigits⟩ := h
  induction t with
  | nil => exact absurd rfl hne
  | cons c rest ih =>
    obtain ⟨hc, hrest⟩ := List.forall_mem_cons.1 hdigits
    cases rest with
    | nil => rw [groupedDigits?, decimalDigit?_of_isDigit hc, Option.map_some, List.map_singleton]
    | cons e more =>
      rw [groupedDigits?, decimalDigit?_of_isDigit hc, ih (List.cons_ne_nil e more) hrest]
      · rfl
      · simp
      · rintro _ heq
        obtain ⟨rfl, -⟩ := List.cons.inj heq
        exact absurd (hrest _ List.mem_cons_self) (by decide)

theorem trim_of_isBlank_eq_false (hne : t ≠ []) (h : ∀ c ∈ t, isBlank c = false) :
    trim isSpace t = t := by
  have hspace : ∀ c ∈ t, isSpace c = false := fun c hc => (Bool.or_eq_false_iff.1 (h c hc)).1
  have htrim : trim isSpace ([] ++ t ++ []) = t :=
    trim_append_of_all hne (by simp) hspace (by simp)
  rwa [List.nil_append, List.append_nil] at htrim

theorem integer?_of_numeral (h : Numeral t d)
    (hlimit : (splitSign t).2.length ≤ NumberFault.digitLimit) : integer? t = some d := by
  obtain ⟨hdigits, rfl⟩ := Numeral.iff_splitSign.1 h
  rw [integer?, trim_of_isBlank_eq_false h.ne_nil h.not_isBlank]
  simp only [groupedDigits?_of_isDigits hdigits, Option.bind_some, List.length_map,
    if_neg (not_lt.2 hlimit), ofDigits_map]

/-- An integer with no more digits than are ever read is read back from its text. -/
theorem integer?_toString (d : ℤ)
    (hlimit : (Nat.toDigits 10 d.natAbs).length ≤ NumberFault.digitLimit) :
    integer? (toString d : String) = some d := by
  refine integer?_of_numeral (numeral_toString d) (le_trans ?_ hlimit)
  cases d with
  | ofNat m =>
    have hlength := (splitSign_suffix (ofList (Nat.toDigits 10 m))).length_le
    rw [ofList, List.length_map, ← ofList] at hlength
    rwa [ofString_toString_ofNat]
  | negSucc m =>
    rw [ofString_toString_negSucc]
    exact (List.length_map _).le

theorem of_decimalDigit? (h : decimalDigit? c = some n) : isBlank c = false ∧ c ≠ '/' := by
  have hranges : ∀ r ∈ digitRanges, 0x2f < r.1 ∧
      ∀ b ∈ (0x1c, 0x1f) :: spaceRanges, r.2 < b.1 ∨ b.2 < r.1 := by decide +kernel
  obtain ⟨r, hr, -⟩ := Option.map_eq_some_iff.1 h
  obtain ⟨hslash, hblanks⟩ := hranges r (List.mem_of_find?_eq_some hr)
  have hin : r.1 ≤ c.toNat ∧ c.toNat ≤ r.2 := by simpa using List.find?_some hr
  refine ⟨?_, ?_⟩
  · rw [Bool.eq_false_iff]
    intro hblank
    have hb : ∃ b ∈ (0x1c, 0x1f) :: spaceRanges, b.1 ≤ c.toNat ∧ c.toNat ≤ b.2 := by
      rw [List.exists_mem_cons_iff]
      simpa [isBlank, isSpace, within, or_comm] using hblank
    obtain ⟨b, hb, hleft, hright⟩ := hb
    have := hblanks b hb
    omega
  · rintro rfl
    have hnat : (CodePoint.char '/').toNat = 0x2f := rfl
    omega

theorem of_groupedDigits? {digits : List ℕ} (h : groupedDigits? decimalDigit? t = some digits) :
    ∀ c ∈ t, isBlank c = false ∧ c ≠ '/' := by
  induction t using groupedDigits?.induct generalizing digits with
  | case1 => simp
  | case2 c =>
    obtain ⟨n, hn, -⟩ := Option.map_eq_some_iff.1 h
    exact List.forall_mem_singleton.2 (of_decimalDigit? hn)
  | case3 c rest ih =>
    simp only [groupedDigits?, Option.bind_eq_bind, Option.bind_eq_some_iff] at h
    obtain ⟨n, hn, ns, hns, -⟩ := h
    exact List.forall_mem_cons.2 ⟨of_decimalDigit? hn, List.forall_mem_cons.2 ⟨by decide, ih hns⟩⟩
  | case4 c rest hne hmark ih =>
    rw [groupedDigits?] at h
    · simp only [Option.bind_eq_bind, Option.bind_eq_some_iff] at h
      obtain ⟨n, hn, ns, hns, -⟩ := h
      exact List.forall_mem_cons.2 ⟨of_decimalDigit? hn, ih hns⟩
    · exact hne
    · exact hmark

theorem mem_splitSign (hc : c ∈ t) : c = '-' ∨ c = '+' ∨ c ∈ (splitSign t).2 := by
  unfold splitSign
  split
  · exact (List.mem_cons.1 hc).imp_right .inr
  · exact .inr (List.mem_cons.1 hc)
  · exact .inr (.inr hc)

theorem of_integer? (h : integer? t = some d) :
    trim isSpace t ≠ [] ∧ ∀ c ∈ trim isSpace t, isBlank c = false ∧ c ≠ '/' := by
  obtain ⟨digits, hdigits, -⟩ := Option.bind_eq_some_iff.1 h
  constructor
  · intro hnil
    rw [hnil] at hdigits
    cases hdigits
  · intro c hc
    rcases mem_splitSign hc with rfl | rfl | hc
    · decide
    · decide
    · exact of_groupedDigits? hdigits c hc

theorem slash_notMem_of_integer? (h : integer? t = some d) : .char '/' ∉ t := by
  obtain ⟨left, right, ht, hleft, hright⟩ := exists_eq_append_trim isSpace t
  intro hmem
  rw [ht, List.mem_append, List.mem_append] at hmem
  rcases hmem with (hmem | hmem) | hmem
  · exact absurd (hleft _ hmem) (by decide)
  · exact ((of_integer? h).2 _ hmem).2 rfl
  · exact absurd (hright _ hmem) (by decide)

theorem integer?_rdropWhile (h : integer? t = some d) :
    integer? (t.rdropWhile isBlank) = some d := by
  obtain ⟨left, right, ht, hleft, hright⟩ := exists_eq_append_trim isSpace t
  obtain ⟨hne, hbody⟩ := of_integer? h
  have hdrop : (left ++ trim isSpace t ++ right).rdropWhile isBlank = left ++ trim isSpace t :=
    rdropWhile_append_of_all hne (fun c hc => (hbody c hc).1) fun c hc =>
      Bool.or_eq_true_iff.2 (.inl (hright c hc))
  rw [← ht] at hdrop
  have htrim : trim isSpace (t.rdropWhile isBlank) = trim isSpace t := by
    rw [hdrop, trim_append_left hleft, trim_trim]
  rwa [integer?, htrim]

end RuleGate.Text
