import Mathlib.Data.List.Find
import RuleGate.Proofs.Json.Reader
import RuleGate.Proofs.Text.Numeral

/-!
# Blanks at the end of JSON text

A text that holds a value holds it without the blanks at its end (`Json.read_rdropWhile`). No number
and no literal reads a blank, and a quoted text ends before the last of them, so the tokens are the
same ones. Where the text holds no value this may fail: a quoted text that is not closed is as long
as the text.
-/

namespace RuleGate.Json

open Text (isBlank)

variable {ws : Text} {c m : CodePoint} {l : Lexeme} {k pos : Nat}

theorem ne_of_isBlank (hc : isBlank c) (hm : isBlank m = false) : c ≠ m := by
  rintro rfl
  rw [hc] at hm
  cases hm

theorem isDigit_of_isBlank (hc : isBlank c) : c.isDigit = false := by
  cases hdigit : c.isDigit with
  | false => rfl
  | true =>
    rw [Text.isBlank_of_isDigit hdigit] at hc
    cases hc

theorem takeWhile_append_blanks {p : CodePoint → Bool} (hp : ∀ c, isBlank c → p c = false)
    (hws : ∀ c ∈ ws, isBlank c) (cs : Text) : (cs ++ ws).takeWhile p = cs.takeWhile p := by
  induction cs with
  | nil =>
    cases ws with
    | nil => rfl
    | cons c ws => exact List.takeWhile_cons_of_neg (by simp [hp c (hws c List.mem_cons_self)])
  | cons c cs ih => rw [List.cons_append, List.takeWhile_cons, List.takeWhile_cons, ih]

theorem drop_append_blanks (hws : ∀ c ∈ ws, isBlank c) (cs : Text) (n : Nat) :
    ∃ ws', (∀ c ∈ ws', isBlank c) ∧ (cs ++ ws).drop n = cs.drop n ++ ws' :=
  ⟨ws.drop (n - cs.length), fun c hc => hws c (List.mem_of_mem_drop hc), List.drop_append⟩

theorem head?_append_eq_some_iff (hws : ∀ c ∈ ws, isBlank c) (hm : isBlank m = false) (cs : Text) :
    (cs ++ ws).head? = some m ↔ cs.head? = some m := by
  cases cs with
  | cons _ _ => rfl
  | nil =>
    refine iff_of_false (fun hhead => ?_) (by simp)
    exact Text.not_mem_of_forall_isBlank hws hm (List.mem_of_head? hhead)

theorem wholeDigits_of_head?_ne {cs : Text} (h : cs.head? ≠ some '0') :
    wholeDigits cs = cs.takeWhile CodePoint.isDigit := by
  rw [wholeDigits]
  rintro rest rfl
  exact h rfl

theorem wholeDigits_append (hws : ∀ c ∈ ws, isBlank c) (cs : Text) :
    wholeDigits (cs ++ ws) = wholeDigits cs := by
  by_cases hhead : cs.head? = some '0'
  · obtain ⟨rest, rfl⟩ := List.head?_eq_some_iff.1 hhead
    rfl
  · have hhead' := mt (head?_append_eq_some_iff hws (by decide) cs).1 hhead
    rw [wholeDigits_of_head?_ne hhead, wholeDigits_of_head?_ne hhead']
    exact takeWhile_append_blanks (fun _ => isDigit_of_isBlank) hws cs

theorem fractionDigits_of_head?_ne {cs : Text} (h : cs.head? ≠ some '.') :
    fractionDigits cs = [] := by
  rw [fractionDigits]
  rintro rest rfl
  exact h rfl

theorem fractionDigits_append (hws : ∀ c ∈ ws, isBlank c) (cs : Text) :
    fractionDigits (cs ++ ws) = fractionDigits cs := by
  by_cases hhead : cs.head? = some '.'
  · obtain ⟨rest, rfl⟩ := List.head?_eq_some_iff.1 hhead
    exact takeWhile_append_blanks (fun _ => isDigit_of_isBlank) hws rest
  · have hhead' := mt (head?_append_eq_some_iff hws (by decide) cs).1 hhead
    rw [fractionDigits_of_head?_ne hhead, fractionDigits_of_head?_ne hhead']

theorem splitSign_of_head?_ne {cs : Text} (hminus : cs.head? ≠ some '-')
    (hplus : cs.head? ≠ some '+') : Text.splitSign cs = (false, cs) := by
  rw [Text.splitSign]
  · rintro rest rfl
    exact hminus rfl
  · rintro rest rfl
    exact hplus rfl

theorem splitSign_append (hws : ∀ c ∈ ws, isBlank c) (cs : Text) :
    Text.splitSign (cs ++ ws) = ((Text.splitSign cs).1, (Text.splitSign cs).2 ++ ws) := by
  by_cases hminus : cs.head? = some '-'
  · obtain ⟨rest, rfl⟩ := List.head?_eq_some_iff.1 hminus
    rfl
  · by_cases hplus : cs.head? = some '+'
    · obtain ⟨rest, rfl⟩ := List.head?_eq_some_iff.1 hplus
      rfl
    · have hminus' := mt (head?_append_eq_some_iff hws (by decide) cs).1 hminus
      have hplus' := mt (head?_append_eq_some_iff hws (by decide) cs).1 hplus
      rw [splitSign_of_head?_ne hminus hplus, splitSign_of_head?_ne hminus' hplus']

theorem power?_append (hws : ∀ c ∈ ws, isBlank c) (cs : Text) : power? (cs ++ ws) = power? cs := by
  cases cs with
  | nil =>
    cases ws with
    | nil => rfl
    | cons c ws =>
      have hc := hws c List.mem_cons_self
      have hlower : c ≠ 'e' := ne_of_isBlank hc (by decide)
      have hupper : c ≠ 'E' := ne_of_isBlank hc (by decide)
      simp [power?, hlower, hupper]
  | cons c cs =>
    rw [List.cons_append, power?, power?, splitSign_append hws]
    simp only [takeWhile_append_blanks (fun _ => isDigit_of_isBlank) hws, List.length_append,
      Nat.add_sub_add_right]

theorem numberAtom?_append (hws : ∀ c ∈ ws, isBlank c) (cs : Text) :
    numberAtom? (cs ++ ws) = numberAtom? cs := by
  have hsign : ((cs ++ ws).head? = some (.char '-')) = (cs.head? = some (.char '-')) :=
    propext (head?_append_eq_some_iff hws (by decide) cs)
  have hwhole (n : Nat) : wholeDigits ((cs ++ ws).drop n) = wholeDigits (cs.drop n) := by
    obtain ⟨ws', hws', hdrop⟩ := drop_append_blanks hws cs n
    rw [hdrop, wholeDigits_append hws']
  have hfraction (n k : Nat) :
      fractionDigits (((cs ++ ws).drop n).drop k) = fractionDigits ((cs.drop n).drop k) := by
    obtain ⟨ws', hws', hdrop⟩ := drop_append_blanks hws cs (n + k)
    rw [List.drop_drop, List.drop_drop, hdrop, fractionDigits_append hws']
  have hpower (n : Nat) : power? ((cs ++ ws).drop n) = power? (cs.drop n) := by
    obtain ⟨ws', hws', hdrop⟩ := drop_append_blanks hws cs n
    rw [hdrop, power?_append hws']
  simp only [numberAtom?, hsign, hwhole, hfraction, hpower]

theorem isPrefixOf_append_blanks {t : Text} (ht : ∀ c ∈ t, isBlank c = false)
    (hws : ∀ c ∈ ws, isBlank c) (cs : Text) : t.isPrefixOf (cs ++ ws) = t.isPrefixOf cs := by
  induction t generalizing cs with
  | nil => rfl
  | cons d t ih =>
    obtain ⟨hd, ht⟩ := List.forall_mem_cons.1 ht
    cases cs with
    | cons c cs => rw [List.cons_append, List.isPrefixOf, List.isPrefixOf, ih ht]
    | nil =>
      cases ws with
      | nil => rfl
      | cons c ws =>
        have hc : (d == c) = false :=
          beq_eq_false_iff_ne.2 (ne_of_isBlank (hws c List.mem_cons_self) hd).symm
        rw [List.nil_append, List.isPrefixOf_cons_cons, hc, Bool.false_and]
        rfl

theorem literal?_append (hws : ∀ c ∈ ws, isBlank c) (cs : Text) :
    literal? (cs ++ ws) = literal? cs := by
  have hliterals : ∀ l ∈ literals, ∀ c ∈ l.1, isBlank c = false := by decide
  have hfind : (literals.find? fun l => l.1.isPrefixOf (cs ++ ws)) =
      literals.find? fun l => l.1.isPrefixOf cs :=
    List.find?_congr fun l hl => isPrefixOf_append_blanks (hliterals l hl) hws cs
  rw [literal?, literal?, hfind]

theorem hexValue?_of_isBlank (hc : isBlank c) : hexValue? c = none := by
  have hdigit := isDigit_of_isBlank hc
  have hrange := Text.toNat_of_isBlank hc
  cases c with
  | half n => rfl
  | char c =>
    have hnat : (CodePoint.char c).toNat = c.toNat := rfl
    have hdigit : c.isDigit = false := hdigit
    rw [hnat] at hrange
    have hlower : ¬ ('a' ≤ c && c ≤ 'f') = true := by
      rw [Bool.and_eq_true, decide_eq_true_iff, decide_eq_true_iff]
      rintro ⟨hleft, hright⟩
      have hleft : 0x61 ≤ c.toNat := hleft
      have hright : c.toNat ≤ 0x66 := hright
      omega
    have hupper : ¬ ('A' ≤ c && c ≤ 'F') = true := by
      rw [Bool.and_eq_true, decide_eq_true_iff, decide_eq_true_iff]
      rintro ⟨hleft, hright⟩
      have hleft : 0x41 ≤ c.toNat := hleft
      have hright : c.toNat ≤ 0x46 := hright
      omega
    rw [hexValue?, hdigit, if_neg Bool.false_ne_true, if_neg hlower, if_neg hupper]

theorem exists_of_mapM {α β : Type} {f : α → Option β} {as : List α} {bs : List β}
    (h : as.mapM f = some bs) : ∀ a ∈ as, ∃ b, f a = some b := by
  induction as generalizing bs with
  | nil => simp
  | cons a as ih =>
    simp only [List.mapM_cons, Option.bind_eq_bind, Option.bind_eq_some_iff] at h
    obtain ⟨b, hb, bs', hbs', -⟩ := h
    exact List.forall_mem_cons.2 ⟨⟨b, hb⟩, ih hbs'⟩

theorem unit?_append (hws : ∀ c ∈ ws, isBlank c) (cs : Text) : unit? (cs ++ ws) = unit? cs := by
  by_cases hlength : 4 ≤ cs.length
  · rw [unit?, unit?, List.take_append_of_le_length hlength]
  · have hshort : (cs.take 4).length ≠ 4 := by
      rw [List.length_take]
      omega
    rw [unit?, unit?, if_neg hshort]
    split
    case isFalse => rfl
    case isTrue hlong =>
      rw [Option.map_eq_none_iff, Option.eq_none_iff_forall_ne_some]
      intro ds hds
      cases ws with
      | nil => exact hshort (by simpa using hlong)
      | cons c ws =>
        have hmem : c ∈ (cs ++ c :: ws).take 4 := by
          rw [List.take_append, List.take_cons (by omega)]
          exact List.mem_append_right _ List.mem_cons_self
        obtain ⟨d, hd⟩ := exists_of_mapM hds c hmem
        rw [hexValue?_of_isBlank (hws c List.mem_cons_self)] at hd
        cases hd

section CodeEscape

variable {cs rest : Text} {high : Nat}

theorem codeEscape_of_none (h : unit? cs = none) :
    codeEscape pos cs = .error ⟨.badCodeEscape, pos⟩ := by
  rw [codeEscape, h]

theorem codeEscape_of_pair (hunit : unit? cs = some high)
    (h : cs.drop 4 = .char '\\' :: .char 'u' :: rest) : codeEscape pos cs =
      if isHighSurrogate high && 4 < rest.length then
        match unit? rest with
        | none => .error ⟨.badCodeEscape, pos + 6⟩
        | some low =>
          if isLowSurrogate low then .ok (joinUnits high low, 10) else .ok (.ofUnit high, 4)
      else .ok (.ofUnit high, 4) := by
  rw [codeEscape, hunit, h]
  rfl

theorem codeEscape_of_single (hunit : unit? cs = some high) (hne : cs.drop 4 ≠ [])
    (h : ∀ rest, cs.drop 4 ≠ .char '\\' :: .char 'u' :: rest) :
    codeEscape pos cs = .ok (.ofUnit high, 4) := by
  unfold codeEscape
  split
  case h_1 hnone =>
    rw [hunit] at hnone
    cases hnone
  case h_2 hend _ => exact absurd hend hne
  case h_3 hpair => exact absurd hpair (h _)
  case h_4 hn _ _ =>
    rw [hunit] at hn
    rw [Option.some.inj hn]

theorem four_le_of_codeEscape (h : codeEscape pos cs = .ok (c, k)) : 4 ≤ k := by
  unfold codeEscape at h
  split at h
  · cases h
  · cases h
  · split_ifs at h
    · split at h
      · cases h
      · split_ifs at h <;> cases h <;> decide
    · cases h
      decide
  · cases h
    decide

end CodeEscape

theorem scanText_cons (hmark : c ≠ '"') (hescape : c ≠ '\\') {start count : Nat}
    {done rest : Text} : scanText start done count (c :: rest) =
      if c.toNat ≤ 0x1f then .error ⟨.control, start + count + 1⟩
      else scanText start (c :: done) (count + 1) rest := by
  rw [scanText]
  · exact hmark
  · exact fun h => absurd h hescape
  · exact fun _ h => absurd h hescape
  · exact fun _ _ h => absurd h hescape

theorem mark_mem_of_scanText {start count : Nat} {done cs s : Text}
    (h : scanText start done count cs = .ok (s, k)) : .char '"' ∈ cs := by
  induction done, count, cs using scanText.induct start with
  | case1 => simp [scanText] at h
  | case2 => exact List.mem_cons_self
  | case3 => simp [scanText] at h
  | case4 done count rest e he => simp [scanText, he] at h
  | case5 done count rest c j hescape ih =>
    rw [scanText, hescape] at h
    exact List.mem_cons_of_mem _ (List.mem_cons_of_mem _ (List.mem_of_mem_drop (ih h)))
  | case6 done count c rest hc hescape =>
    rw [scanText, hescape] at h
    · cases h
    · exact hc
  | case7 done count c rest hc e hescape ih =>
    rw [scanText, hescape] at h
    · exact List.mem_cons_of_mem _ (List.mem_cons_of_mem _ (ih h))
    · exact hc
  | case8 done count c rest h₁ h₂ h₃ h₄ hcontrol =>
    rw [scanText, if_pos hcontrol] at h
    · cases h
    all_goals assumption
  | case9 done count c rest h₁ h₂ h₃ h₄ hcontrol ih =>
    rw [scanText, if_neg hcontrol] at h
    · exact List.mem_cons_of_mem _ (ih h)
    all_goals assumption

/-- Where two escapes follow each other, the second may need the blanks to be read at all, but then
no closing mark is left. -/
theorem codeEscape_of_append_pair (hws : ∀ c ∈ ws, isBlank c) {cs cs' more : Text} {high : Nat}
    (hunit : unit? cs = some high) (hdrop : cs.drop 4 = .char '\\' :: .char 'u' :: more)
    (hunit' : unit? cs' = some high)
    (hdrop' : cs'.drop 4 = .char '\\' :: .char 'u' :: (more ++ ws))
    (h : codeEscape pos cs' = .ok (c, k)) (hmark : .char '"' ∈ cs'.drop k) :
    codeEscape pos cs = .ok (c, k) := by
  rw [codeEscape_of_pair hunit' hdrop', unit?_append hws] at h
  rw [codeEscape_of_pair hunit hdrop]
  by_cases hlong : 4 < more.length
  · have hlong' : 4 < (more ++ ws).length := by
      rw [List.length_append]
      omega
    simpa only [hlong, hlong'] using h
  · rw [if_neg (by simp [hlong])]
    split at h
    case isFalse => exact h
    case isTrue =>
      split at h
      case h_1 => cases h
      case h_2 low _ =>
        split at h
        case isFalse => exact h
        case isTrue =>
          cases h
          have hmem : .char '"' ∈ (more ++ ws).drop 4 := by
            have hten : cs'.drop 10 = (more ++ ws).drop 4 := by
              rw [show 10 = 4 + 6 from rfl, ← List.drop_drop, hdrop']
              rfl
            rwa [hten] at hmark
          rw [List.drop_append, List.drop_eq_nil_of_le (not_lt.1 hlong), List.nil_append] at hmem
          exact absurd (List.mem_of_mem_drop hmem)
            (Text.not_mem_of_forall_isBlank hws (by decide))

theorem codeEscape_of_append (hws : ∀ c ∈ ws, isBlank c) {cs : Text}
    (h : codeEscape pos (cs ++ ws) = .ok (c, k)) (hmark : .char '"' ∈ (cs ++ ws).drop k) :
    codeEscape pos cs = .ok (c, k) := by
  have hunit := unit?_append hws cs
  obtain ⟨ws', hws', hdrop⟩ := drop_append_blanks hws cs 4
  cases hhigh : unit? cs with
  | none =>
    rw [codeEscape_of_none (hunit.trans hhigh)] at h
    cases h
  | some high =>
    rw [hhigh] at hunit
    rcases hrest : cs.drop 4 with _ | ⟨d, _ | ⟨e, more⟩⟩
    · obtain ⟨n, rfl⟩ := Nat.exists_eq_add_of_le (four_le_of_codeEscape h)
      rw [← List.drop_drop, hdrop, hrest] at hmark
      exact absurd (List.mem_of_mem_drop hmark)
        (Text.not_mem_of_forall_isBlank hws' (by decide))
    · rw [codeEscape_of_single hhigh (by simp [hrest]) (by simp [hrest])]
      rw [codeEscape_of_single hunit (by simp [hdrop, hrest])] at h
      · exact h
      · intro more hmore
        rw [hdrop, hrest] at hmore
        obtain rfl : ws' = .char 'u' :: more := (List.cons.inj hmore).2
        exact Text.not_mem_of_forall_isBlank hws' (by decide) List.mem_cons_self
    · rw [hrest] at hdrop
      by_cases hpair : d = '\\' ∧ e = 'u'
      · obtain ⟨rfl, rfl⟩ := hpair
        exact codeEscape_of_append_pair hws' hhigh hrest hunit hdrop h hmark
      · have hne (rest rest' : Text) : d :: e :: rest ≠ .char '\\' :: .char 'u' :: rest' := by
          intro heq
          obtain ⟨hd, hrest⟩ := List.cons.inj heq
          exact hpair ⟨hd, (List.cons.inj hrest).1⟩
        rw [codeEscape_of_single hunit (by simp [hdrop]) fun rest => hdrop ▸ hne _ rest] at h
        rw [codeEscape_of_single hhigh (by simp [hrest]) fun rest => hrest ▸ hne more rest]
        exact h

theorem simpleEscape?_of_isBlank (hc : isBlank c) : simpleEscape? c = none := by
  unfold simpleEscape?
  split
  case h_9 => rfl
  all_goals exact absurd hc (by decide)

/-- What is scanned first is not one of the blanks, since the closing mark comes later. -/
theorem exists_cons_of_scanText {start count : Nat} {done cs rest s : Text} {d : CodePoint}
    (hws : ∀ c ∈ ws, isBlank c) (hcs : cs ++ ws = d :: rest)
    (h : scanText start done count (d :: rest) = .ok (s, k)) :
    ∃ cs', cs = d :: cs' ∧ cs' ++ ws = rest := by
  cases cs with
  | cons c cs' =>
    obtain ⟨rfl, hrest⟩ := List.cons.inj hcs
    exact ⟨cs', rfl, hrest⟩
  | nil =>
    have hmark := mark_mem_of_scanText h
    rw [← hcs] at hmark
    exact absurd hmark (Text.not_mem_of_forall_isBlank hws (by decide))

/-- A quoted text is read as before, by induction on what is left of the longer text. -/
theorem scanText_of_append {start count : Nat} {done cs s : Text} (hws : ∀ c ∈ ws, isBlank c)
    (h : scanText start done count (cs ++ ws) = .ok (s, k)) :
    scanText start done count cs = .ok (s, k) := by
  generalize hcs : cs ++ ws = whole at h
  induction done, count, whole using scanText.induct start generalizing cs ws with
  | case1 => simp [scanText] at h
  | case2 done count rest =>
    obtain ⟨cs, rfl, -⟩ := exists_cons_of_scanText hws hcs h
    rwa [scanText] at h ⊢
  | case3 => simp [scanText] at h
  | case4 done count rest e he => simp [scanText, he] at h
  | case5 done count rest c j hescape ih =>
    obtain ⟨cs, rfl, hrest⟩ := exists_cons_of_scanText hws hcs h
    cases cs with
    | nil =>
      obtain rfl : ws = .char 'u' :: rest := hrest
      exact absurd List.mem_cons_self (Text.not_mem_of_forall_isBlank hws (by decide))
    | cons d cs =>
      obtain ⟨rfl, rfl⟩ := List.cons.inj hrest
      rw [scanText, hescape] at h
      have hescape' := codeEscape_of_append hws hescape (mark_mem_of_scanText h)
      obtain ⟨ws', hws', hdrop⟩ := drop_append_blanks hws cs j
      rw [scanText, hescape']
      exact ih hws' hdrop.symm h
  | case6 done count c rest hc hescape =>
    rw [scanText, hescape] at h
    · cases h
    · exact hc
  | case7 done count c rest hc e hescape ih =>
    obtain ⟨cs, rfl, hrest⟩ := exists_cons_of_scanText hws hcs h
    cases cs with
    | nil =>
      obtain rfl : ws = c :: rest := hrest
      rw [simpleEscape?_of_isBlank (hws c List.mem_cons_self)] at hescape
      cases hescape
    | cons d cs =>
      obtain ⟨rfl, rfl⟩ := List.cons.inj hrest
      rw [scanText, hescape] at h ⊢
      · exact ih hws rfl h
      all_goals exact hc
  | case8 done count c rest h₁ h₂ h₃ h₄ hcontrol =>
    rw [scanText, if_pos hcontrol] at h
    · cases h
    all_goals assumption
  | case9 done count c rest h₁ h₂ h₃ h₄ hcontrol ih =>
    obtain ⟨cs, rfl, rfl⟩ := exists_cons_of_scanText hws hcs h
    have hc : c ≠ '\\' := by
      intro hc
      cases hrest : cs ++ ws with
      | nil => exact h₂ hc hrest
      | cons d rest => exact h₄ d rest hc hrest
    rw [scanText_cons h₁ hc, if_neg hcontrol] at h ⊢
    exact ih hws rfl h

/-- Tokens that reading may go on with. -/
def Lexeme.Fine : Lexeme → Prop
  | .stray | .badText _ => False
  | _ => True

theorem lexeme_of_append (hws : ∀ c ∈ ws, isBlank c) {cs : Text}
    (hfine : (lexeme pos c (cs ++ ws)).1.Fine) : lexeme pos c cs = lexeme pos c (cs ++ ws) := by
  have hliteral := literal?_append hws (c :: cs)
  have hnumber := numberAtom?_append hws (c :: cs)
  rw [List.cons_append] at hliteral hnumber
  revert hfine
  unfold lexeme
  split
  case h_7 =>
    intro hfine
    cases hscan : scanText pos [] 0 (cs ++ ws) with
    | ok found => rw [scanText_of_append hws hscan]
    | error e =>
      rw [hscan] at hfine
      exact hfine.elim
  case h_8 =>
    rw [hliteral, hnumber]
    intro hfine
    cases hatom : (literal? (c :: cs) <|> numberAtom? (c :: cs)) with
    | some found => rfl
    | none =>
      rw [hatom] at hfine
      exact hfine.elim
  all_goals exact fun _ => rfl

theorem lexeme_of_blanks (hws : ∀ d ∈ c :: ws, isBlank d) : (lexeme pos c ws).1 = .stray := by
  have hliteral : literal? (c :: ws) = none := literal?_append hws []
  have hnumber : numberAtom? (c :: ws) = none := numberAtom?_append hws []
  unfold lexeme
  split
  case h_8 =>
    rw [hliteral, hnumber]
    rfl
  all_goals exact absurd (hws _ List.mem_cons_self) (by decide)

/-- Blanks alone come to nothing or to no token that fits. -/
theorem tokens_blanks (hws : ∀ c ∈ ws, isBlank c) (hfine : ∀ t ∈ tokens pos ws, t.lexeme.Fine) :
    (tokens pos ws).map Token.lexeme = [.finish] := by
  induction ws generalizing pos with
  | nil =>
    rw [tokens]
    rfl
  | cons c ws ih =>
    cases hlayout : isLayout c with
    | true =>
      rw [tokens, if_pos hlayout] at hfine ⊢
      exact ih (List.forall_mem_cons.1 hws).2 hfine
    | false =>
      rw [tokens_cons hlayout, lexeme_of_blanks hws] at hfine
      exact (List.forall_mem_cons.1 hfine).1.elim

theorem tokens_append (hws : ∀ c ∈ ws, isBlank c) (cs : Text)
    (hfine : ∀ t ∈ tokens pos (cs ++ ws), t.lexeme.Fine) :
    (tokens pos (cs ++ ws)).map Token.lexeme = (tokens pos cs).map Token.lexeme := by
  induction pos, cs using tokens.induct generalizing ws with
  | case1 pos =>
    rw [List.nil_append] at hfine ⊢
    rw [tokens_blanks hws hfine, tokens]
    rfl
  | case2 pos c rest hlayout ih =>
    rw [List.cons_append, tokens, if_pos hlayout] at hfine ⊢
    rw [tokens, if_pos hlayout]
    exact ih hws hfine
  | case3 pos c rest hlayout l k hlexeme ih =>
    have hlayout := Bool.eq_false_iff.2 hlayout
    rw [List.cons_append, tokens_cons hlayout] at hfine ⊢
    rw [tokens_cons hlayout]
    obtain ⟨hhead, hrest⟩ := List.forall_mem_cons.1 hfine
    obtain ⟨ws', hws', hdrop⟩ := drop_append_blanks hws rest k
    rw [← lexeme_of_append hws hhead, hlexeme, hdrop] at hrest ⊢
    rw [List.map_cons, List.map_cons, ih hws' hrest]

namespace State

variable {s s' : State} {t t' : Token} {ts ts' : List Token} {v : Json}

theorem fine_of_step (h : s.step t = .ok s') : t.lexeme.Fine := by
  cases ht : t.lexeme with
  | stray | badText e =>
    cases s with
    | value frames | item frames => simp [step, onValue, ht, fail] at h
    | name frames done | field frames => simp [step, onName, ht, fail] at h
    | colon frames done key => simp [step, ht, fail] at h
    | after frames v => rcases frames with _ | ⟨_ | _, _⟩ <;> simp [step, onAfter, ht, fail] at h
  | _ => trivial

theorem onValue_congr {frames : List Frame} (hlexeme : t.lexeme = t'.lexeme)
    (h : onValue frames t = .ok s') : onValue frames t' = .ok s' := by
  unfold onValue at h ⊢
  rw [← hlexeme]
  cases hl : t.lexeme with
  | openObject | openArray | text _ | atom _ => rwa [hl] at h
  | _ =>
    rw [hl] at h
    cases h

theorem onName_congr {frames : List Frame} {done : Fields} (hlexeme : t.lexeme = t'.lexeme)
    (h : onName frames done t = .ok s') : onName frames done t' = .ok s' := by
  unfold onName at h ⊢
  rw [← hlexeme]
  cases hl : t.lexeme with
  | text _ => rwa [hl] at h
  | _ =>
    rw [hl] at h
    cases h

theorem onAfter_congr {frames : List Frame} (hlexeme : t.lexeme = t'.lexeme)
    (h : onAfter v t frames = .ok s') : onAfter v t' frames = .ok s' := by
  unfold onAfter at h ⊢
  rcases frames with _ | ⟨_ | _, frames⟩
  · cases h
  all_goals
    dsimp only at h ⊢
    rw [← hlexeme]
    cases hl : t.lexeme with
    | comma | closeArray | closeObject => rw [hl] at h; first | exact h | cases h
    | _ =>
      rw [hl] at h
      cases h

/-- Where a token stands only matters for what is said about it. -/
theorem step_congr (hlexeme : t.lexeme = t'.lexeme) (h : s.step t = .ok s') :
    s.step t' = .ok s' := by
  cases s with
  | value frames => exact onValue_congr hlexeme h
  | name frames done => exact onName_congr hlexeme h
  | after frames v => exact onAfter_congr hlexeme h
  | item frames =>
    simp only [step] at h ⊢
    rw [← hlexeme]
    split at h
    case h_1 => exact h
    case h_2 => exact onValue_congr hlexeme h
  | field frames =>
    simp only [step] at h ⊢
    rw [← hlexeme]
    split at h
    case h_1 => exact h
    case h_2 => exact onName_congr hlexeme h
  | colon frames done key =>
    simp only [step] at h ⊢
    rw [← hlexeme]
    split at h
    case h_1 => exact h
    case h_2 => cases h

theorem fine_of_run (h : s.run ts = .ok v) : ∀ t ∈ ts, t.lexeme.Fine := by
  induction ts generalizing s with
  | nil => simp
  | cons t rest ih =>
    rcases run_cons_eq_ok_iff.1 h with ⟨s', hstep, hrest⟩ | ⟨-, hfinish, rfl⟩
    · exact List.forall_mem_cons.2 ⟨fine_of_step hstep, ih hrest⟩
    · exact List.forall_mem_singleton.2 (by rw [hfinish]; trivial)

theorem run_congr (hlexemes : ts.map Token.lexeme = ts'.map Token.lexeme) (h : s.run ts = .ok v) :
    s.run ts' = .ok v := by
  induction ts generalizing s ts' with
  | nil =>
    obtain rfl : ts' = [] := List.map_eq_nil_iff.1 hlexemes.symm
    exact h
  | cons t rest ih =>
    obtain ⟨t', rest', rfl, ht', hrest'⟩ := List.map_eq_cons_iff.1 hlexemes.symm
    rw [run_cons_eq_ok_iff] at h ⊢
    rcases h with ⟨s', hstep, hrest⟩ | ⟨hs, hfinish, rfl⟩
    · exact .inl ⟨s', step_congr ht'.symm hstep, ih hrest'.symm hrest⟩
    · exact .inr ⟨hs, ht'.trans hfinish, List.map_eq_nil_iff.1 hrest'⟩

end State

/-- Blanks at the end of a text make no difference to the value that it holds. -/
theorem read_rdropWhile {text : Text} {v : Json} (h : read text = .ok v) :
    read (text.rdropWhile isBlank) = .ok v := by
  have hws : ∀ c ∈ text.rtakeWhile isBlank, isBlank c := fun c hc => List.mem_rtakeWhile_imp hc
  have htext : text.rdropWhile isBlank ++ text.rtakeWhile isBlank = text :=
    List.rdropWhile_append_rtakeWhile
  generalize text.rdropWhile isBlank = front at htext
  generalize text.rtakeWhile isBlank = ws at hws htext
  subst htext
  unfold read at h ⊢
  split at h
  case h_1 => cases h
  case h_2 hmark =>
    split
    case h_1 cs => exact absurd rfl (hmark (cs ++ ws))
    case h_2 => exact State.run_congr (tokens_append hws front (State.fine_of_run h)) h

theorem not_all_isBlank_of_read {text : Text} {v : Json} (h : read text = .ok v) :
    ¬ text.all isBlank := by
  intro hall
  have hnil : text.rdropWhile isBlank = [] :=
    List.rdropWhile_eq_nil_iff.2 fun c hc => List.all_eq_true.1 hall c hc
  have hread := read_rdropWhile h
  rw [hnil] at hread
  change State.run (.value []) (tokens 0 []) = .ok v at hread
  rw [tokens] at hread
  cases hread

end RuleGate.Json
