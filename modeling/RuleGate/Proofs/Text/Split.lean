import RuleGate.Proofs.World.ResourceName
import RuleGate.Text.Split

/-!
# Trimmed and split text

Trimming takes away exactly the characters of its class at both ends (`trim_append_of_all`,
`exists_eq_append_trim`), and a text is split at the first mark in it (`splitAt_append`).
-/

namespace RuleGate.Text

theorem rdropWhile_append_of_all {p : CodePoint → Bool} {left body right : Text} (hne : body ≠ [])
    (hbody : ∀ c ∈ body, p c = false) (hright : ∀ c ∈ right, p c) :
    (left ++ body ++ right).rdropWhile p = left ++ body := by
  have hlast : (left ++ body).rdropWhile p = left ++ body := by
    refine List.rdropWhile_eq_self_iff.2 fun h => ?_
    rw [List.getLast_append_of_ne_nil h hne]
    simp [hbody _ (List.getLast_mem hne)]
  rw [List.rdropWhile, List.reverse_append,
    List.dropWhile_append_of_pos fun c hc => hright c (List.mem_reverse.1 hc)]
  exact hlast

theorem trim_append_of_all {p : CodePoint → Bool} {left body right : Text} (hne : body ≠ [])
    (hleft : ∀ c ∈ left, p c) (hbody : ∀ c ∈ body, p c = false) (hright : ∀ c ∈ right, p c) :
    trim p (left ++ body ++ right) = body := by
  have hfront : (left ++ body ++ right).dropWhile p = body ++ right := by
    rw [List.append_assoc, List.dropWhile_append_of_pos hleft]
    cases body with
    | nil => exact absurd rfl hne
    | cons c body => simp [hbody c List.mem_cons_self]
  have hback : ([] ++ body ++ right).rdropWhile p = [] ++ body :=
    rdropWhile_append_of_all hne hbody hright
  rw [trim_eq_rdropWhile, hfront]
  exact hback

theorem exists_eq_append_trim (p : CodePoint → Bool) (t : Text) :
    ∃ left right, t = left ++ trim p t ++ right ∧ (∀ c ∈ left, p c) ∧ ∀ c ∈ right, p c := by
  refine ⟨t.takeWhile p, (t.dropWhile p).rtakeWhile p, ?_, ?_, ?_⟩
  · rw [trim_eq_rdropWhile, List.append_assoc, List.rdropWhile_append_rtakeWhile,
      List.takeWhile_append_dropWhile]
  · exact fun c hc => List.mem_takeWhile_imp hc
  · exact fun c hc => List.mem_takeWhile_imp (List.mem_reverse.1 hc)

theorem strip_of_not_isBlank {t : Text} (hne : t ≠ []) (h : ∀ c ∈ t, isBlank c = false) :
    strip t = t := by
  have htrim : trim isBlank ([] ++ t ++ []) = t := trim_append_of_all hne (by simp) h (by simp)
  rwa [List.nil_append, List.append_nil] at htrim

theorem strip_infix (t : Text) : strip t <:+: t := by
  obtain ⟨left, right, ht, -, -⟩ := exists_eq_append_trim isBlank t
  exact ⟨left, right, ht.symm⟩

theorem trim_append_left {p : CodePoint → Bool} {left t : Text} (hleft : ∀ c ∈ left, p c) :
    trim p (left ++ t) = trim p t := by
  rw [trim, List.dropWhile_append_of_pos hleft, trim]

theorem not_isBlank_getLast?_strip (t : Text) : ∀ c ∈ (strip t).getLast?, isBlank c = false := by
  intro c hc
  obtain ⟨hne, rfl⟩ := List.mem_getLast?_eq_getLast hc
  exact Bool.eq_false_iff.2 (List.rdropWhile_eq_self_iff.1 (rdropWhile_trim isBlank t) hne)

theorem exists_eq_append_strip {t : Text} (h : ∀ c ∈ t.getLast?, isBlank c = false) :
    ∃ left, (∀ c ∈ left, isBlank c) ∧ t = left ++ strip t := by
  obtain ⟨left, right, ht, hleft, hright⟩ := exists_eq_append_trim isBlank t
  refine ⟨left, hleft, ?_⟩
  cases hlast : right.getLast? with
  | none =>
    rw [List.getLast?_eq_none_iff.1 hlast, List.append_nil] at ht
    exact ht
  | some c =>
    have hc : c ∈ t.getLast? := by
      rw [ht, List.getLast?_append, hlast]
      rfl
    have hblank := hright c (List.mem_of_getLast? hlast)
    rw [h c hc] at hblank
    cases hblank

theorem splitSign_suffix (t : Text) : (splitSign t).2 <:+ t := by
  unfold splitSign
  split
  · exact List.suffix_cons _ _
  · exact List.suffix_cons _ _
  · exact List.suffix_rfl

variable {mark : CodePoint} {t : Text}

theorem splitAt_of_not_mem (h : mark ∉ t) : splitAt mark t = (t, none) := by
  have hdrop : t.dropWhile (· ≠ mark) = [] :=
    List.dropWhile_eq_nil_iff.2 fun c hc => decide_eq_true fun heq => h (heq ▸ hc)
  unfold splitAt
  rw [hdrop]

theorem splitAt_append (h : mark ∉ t) (u : Text) : splitAt mark (t ++ mark :: u) = (t, some u) := by
  have hall : ∀ c ∈ t, decide (c ≠ mark) = true := fun c hc =>
    decide_eq_true fun heq => h (heq ▸ hc)
  have hdrop : (t ++ mark :: u).dropWhile (· ≠ mark) = mark :: u := by
    rw [List.dropWhile_append_of_pos hall]
    simp
  have htake : (t ++ mark :: u).takeWhile (· ≠ mark) = t := by
    rw [List.takeWhile_append_of_pos hall]
    simp
  unfold splitAt
  rw [hdrop, htake]

theorem splitAt_append_left {left : Text} (h : mark ∉ left) (t : Text) :
    splitAt mark (left ++ t) = (left ++ (splitAt mark t).1, (splitAt mark t).2) := by
  by_cases hmem : mark ∈ t
  · obtain ⟨u, v, rfl, hu⟩ := List.eq_append_cons_of_mem hmem
    have hnot : mark ∉ left ++ u := by
      rw [List.mem_append]
      exact not_or.2 ⟨h, hu⟩
    rw [← List.append_assoc, splitAt_append hnot, splitAt_append hu]
  · have hnot : mark ∉ left ++ t := by
      rw [List.mem_append]
      exact not_or.2 ⟨h, hmem⟩
    rw [splitAt_of_not_mem hnot, splitAt_of_not_mem hmem]

theorem not_mem_of_forall_isBlank (h : ∀ c ∈ t, isBlank c) (hmark : isBlank mark = false) :
    mark ∉ t := by
  intro hmem
  rw [h mark hmem] at hmark
  cases hmark

theorem eq_append_of_splitAt {u v : Text} (h : splitAt mark t = (u, some v)) :
    t = u ++ mark :: v := by
  by_cases hmem : mark ∈ t
  · obtain ⟨w, x, rfl, hnot⟩ := List.eq_append_cons_of_mem hmem
    rw [splitAt_append hnot, Prod.mk.injEq, Option.some.injEq] at h
    rw [h.1, h.2]
  · rw [splitAt_of_not_mem hmem, Prod.mk.injEq] at h
    cases h.2

end RuleGate.Text
