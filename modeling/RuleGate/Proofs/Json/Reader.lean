import Mathlib.Data.List.Infix
import Mathlib.Data.List.TakeWhile
import RuleGate.Json.Reader
import RuleGate.Proofs.Except

/-!
# Where reading gives up

A text that is no JSON is malformed, but reading may also give up before it knows: at an integer
with more digits than are ever read. It does so exactly if it comes upon such an integer where a
value may stand (`read_eq_tooLong_iff`), and then that many digits stand in a row in the text
(`runOfDigits_of_tooLong`).
-/

namespace RuleGate.Json

inductive State.AwaitsValue : State → Prop
  | value (frames : List Frame) : AwaitsValue (.value frames)
  | item (frames : List Frame) : AwaitsValue (.item frames)

/-- An integer with too many digits comes where a value may stand. -/
inductive GivesUp (digits : Nat) : State → List Token → Prop
  | here {s : State} {t : Token} {rest : List Token} (hs : s.AwaitsValue)
      (ht : t.lexeme = .overlong digits) : GivesUp digits s (t :: rest)
  | later {s s' : State} {t : Token} {rest : List Token} (hstep : s.step t = .ok s')
      (h : GivesUp digits s' rest) : GivesUp digits s (t :: rest)

variable {s : State} {t : Token} {ts rest : List Token} {digits : Nat}

theorem fail_ne_tooLong {α : Type} (complaint : Complaint) (pos : Nat) :
    (fail complaint pos : Except ReadError α) ≠ .error (.tooLong digits) := by
  intro h
  cases h

namespace State

theorem onValue_eq_tooLong_iff {frames : List Frame} :
    onValue frames t = .error (.tooLong digits) ↔ t.lexeme = .overlong digits := by
  unfold onValue
  cases t.lexeme <;> simp [fail]

theorem onName_ne_tooLong {frames : List Frame} {done : Fields} :
    onName frames done t ≠ .error (.tooLong digits) := by
  unfold onName
  cases t.lexeme <;> simp [fail]

theorem onAfter_ne_tooLong {frames : List Frame} {v : Json} :
    onAfter v t frames ≠ .error (.tooLong digits) := by
  unfold onAfter
  cases frames with
  | nil => exact fail_ne_tooLong _ _
  | cons frame frames => cases frame <;> cases t.lexeme <;> simp [fail]

theorem step_eq_tooLong_iff :
    s.step t = .error (.tooLong digits) ↔ s.AwaitsValue ∧ t.lexeme = .overlong digits := by
  cases s with
  | value frames => exact onValue_eq_tooLong_iff.trans (and_iff_right (.value frames)).symm
  | item frames =>
    rw [and_iff_right (.item frames)]
    simp only [step]
    split
    case h_1 hclose => simp [hclose]
    case h_2 => exact onValue_eq_tooLong_iff
  | name frames done => exact iff_of_false onName_ne_tooLong fun h => nomatch h.1
  | field frames =>
    refine iff_of_false ?_ fun h => nomatch h.1
    simp only [step]
    split
    · simp
    · exact onName_ne_tooLong
  | colon frames done key =>
    refine iff_of_false ?_ fun h => nomatch h.1
    simp only [step]
    split
    · simp
    · exact fail_ne_tooLong _ _
  | after frames v => exact iff_of_false onAfter_ne_tooLong fun h => nomatch h.1

end State

theorem givesUp_cons_iff : GivesUp digits s (t :: rest) ↔
    s.step t = .error (.tooLong digits) ∨ ∃ s', s.step t = .ok s' ∧ GivesUp digits s' rest := by
  rw [State.step_eq_tooLong_iff]
  constructor
  · intro h
    cases h with
    | here hs ht => exact .inl ⟨hs, ht⟩
    | later hstep h => exact .inr ⟨_, hstep, h⟩
  · rintro (⟨hs, ht⟩ | ⟨s', hstep, h⟩)
    · exact .here hs ht
    · exact .later hstep h

theorem run_nil : s.run [] = fail .value 0 := by
  cases s with
  | after frames v => cases frames <;> rfl
  | _ => rfl

/-- The end of the text is the one token that no state goes on with and that may yet end well. -/
theorem run_cons (s : State) (t : Token) (rest : List Token) :
    s.run (t :: rest) = s.step t >>= (fun s => s.run rest) ∨
      ∃ v pos, s = .after [] v ∧ t = ⟨.finish, pos⟩ ∧ rest = [] := by
  rcases s with _ | _ | _ | _ | _ | ⟨_ | _, v⟩
  case after.nil =>
    obtain ⟨lexeme, pos⟩ := t
    cases rest with
    | nil =>
      cases lexeme with
      | finish => exact .inr ⟨v, pos, rfl, rfl, rfl⟩
      | _ => exact .inl rfl
    | cons _ _ => cases lexeme <;> exact .inl rfl
  all_goals exact .inl rfl

theorem run_cons_eq_ok_iff {v : Json} : s.run (t :: rest) = .ok v ↔
    (∃ s', s.step t = .ok s' ∧ s'.run rest = .ok v) ∨
      s = .after [] v ∧ t.lexeme = .finish ∧ rest = [] := by
  rcases run_cons s t rest with hrun | ⟨w, pos, rfl, rfl, rfl⟩
  · rw [hrun, Except.bind_eq_ok_iff]
    refine (or_iff_left_of_imp ?_).symm
    rintro ⟨rfl, ht, rfl⟩
    obtain ⟨lexeme, pos⟩ := t
    obtain rfl : lexeme = .finish := ht
    cases hrun
  · have hstep : (State.after [] w).step ⟨.finish, pos⟩ = fail .extra pos := rfl
    simp [State.run, hstep, fail]

theorem run_eq_tooLong_iff : s.run ts = .error (.tooLong digits) ↔ GivesUp digits s ts := by
  induction ts generalizing s with
  | nil =>
    rw [run_nil]
    exact iff_of_false (fail_ne_tooLong _ _) fun h => nomatch h
  | cons t rest ih =>
    rw [givesUp_cons_iff]
    rcases run_cons s t rest with hrun | ⟨v, pos, rfl, rfl, rfl⟩
    · simp only [hrun, Except.bind_eq_error_iff, ih]
    · have hstep : (State.after [] v).step ⟨.finish, pos⟩ = fail .extra pos := rfl
      simp [State.run, hstep, fail]

theorem tokens_cons {c : CodePoint} (hc : isLayout c = false) (pos : Nat) (cs : Text) :
    tokens pos (c :: cs) = ⟨(lexeme pos c cs).1, pos⟩ ::
      tokens (pos + 1 + (lexeme pos c cs).2) (cs.drop (lexeme pos c cs).2) := by
  rw [tokens, hc, if_neg Bool.false_ne_true]

/-- Text that begins with a byte order mark is refused, and it has no token to begin with. -/
theorem read_eq_tooLong_iff {text : Text} :
    read text = .error (.tooLong digits) ↔ GivesUp digits (.value []) (tokens 0 text) := by
  unfold read
  split
  case h_1 cs =>
    refine iff_of_false (fail_ne_tooLong _ _) ?_
    rw [tokens_cons rfl, givesUp_cons_iff]
    rintro (h | ⟨s', h, _⟩) <;> cases h
  case h_2 => exact run_eq_tooLong_iff

/-- So many digits, more than are ever read, stand in a row in a text. -/
def RunOfDigits (digits : Nat) (text : Text) : Prop :=
  NumberFault.digitLimit < digits ∧
    ∃ run, run <:+: text ∧ run.length = digits ∧ ∀ d ∈ run, d.isDigit

theorem RunOfDigits.mono {text text' : Text} (h : RunOfDigits digits text)
    (hpart : text <:+: text') : RunOfDigits digits text' := by
  obtain ⟨hlimit, run, hrun, hlength⟩ := h
  exact ⟨hlimit, run, hrun.trans hpart, hlength⟩

theorem runOfDigits_wholeDigits {cs : Text}
    (h : NumberFault.digitLimit < (wholeDigits cs).length) :
    RunOfDigits (wholeDigits cs).length cs := by
  have hwhole : wholeDigits cs = cs.takeWhile CodePoint.isDigit := by
    unfold wholeDigits at h ⊢
    split at h
    case h_1 => exact absurd h (by decide)
    case h_2 => rfl
  refine ⟨h, wholeDigits cs, ?_, rfl, ?_⟩
  · rw [hwhole]
    exact (List.takeWhile_prefix _).isInfix
  · rw [hwhole]
    exact fun d hd => List.mem_takeWhile_imp hd

theorem runOfDigits_of_numberAtom? {cs : Text} {k : Nat}
    (h : numberAtom? cs = some (.overlong digits, k)) : RunOfDigits digits cs := by
  unfold numberAtom? at h
  extract_lets negative signLength body whole at h
  split at h
  · cases h
  · split at h
    · cases h
    · split_ifs at h with _ hlimit
      · obtain rfl := Lexeme.overlong.inj (Prod.mk.inj (Option.some.inj h)).1
        exact (runOfDigits_wholeDigits hlimit).mono (List.drop_suffix signLength cs).isInfix
      · cases h
      · cases h

theorem literal?_ne_overlong {cs : Text} {k : Nat} :
    literal? cs ≠ some (.overlong digits, k) := by
  unfold literal?
  cases literals.find? _ <;> simp

theorem runOfDigits_of_lexeme {pos : Nat} {c : CodePoint} {cs : Text}
    (h : (lexeme pos c cs).1 = .overlong digits) : RunOfDigits digits (c :: cs) := by
  unfold lexeme at h
  split at h
  case h_7 => split at h <;> cases h
  case h_8 =>
    split at h
    case h_1 l k heq =>
      obtain rfl : l = .overlong digits := h
      cases hliteral : literal? (c :: cs) with
      | none =>
        rw [hliteral] at heq
        exact runOfDigits_of_numberAtom? heq
      | some found =>
        rw [hliteral] at heq
        obtain rfl := Option.some.inj heq
        exact absurd hliteral literal?_ne_overlong
    case h_2 => cases h
  all_goals cases h

theorem runOfDigits_of_mem_tokens {pos : Nat} {cs : Text} (h : t ∈ tokens pos cs)
    (ht : t.lexeme = .overlong digits) : RunOfDigits digits cs := by
  induction pos, cs using tokens.induct with
  | case1 pos =>
    rw [tokens, List.mem_singleton] at h
    subst h
    cases ht
  | case2 pos c rest hlayout ih =>
    rw [tokens, if_pos hlayout] at h
    exact (ih h).mono (List.suffix_cons c rest).isInfix
  | case3 pos c rest hlayout l k hlexeme ih =>
    rw [tokens_cons (Bool.eq_false_iff.2 hlayout), hlexeme] at h
    rcases List.mem_cons.1 h with rfl | h
    · exact runOfDigits_of_lexeme (by rw [hlexeme]; exact ht)
    · exact (ih h).mono ((List.drop_suffix k rest).trans (List.suffix_cons c rest)).isInfix

theorem exists_mem_of_givesUp (h : GivesUp digits s ts) :
    ∃ t ∈ ts, t.lexeme = .overlong digits := by
  induction h with
  | here _ ht => exact ⟨_, List.mem_cons_self, ht⟩
  | later _ _ ih =>
    obtain ⟨t, hmem, ht⟩ := ih
    exact ⟨t, List.mem_cons_of_mem _ hmem, ht⟩

theorem runOfDigits_of_tooLong {text : Text} (h : read text = .error (.tooLong digits)) :
    RunOfDigits digits text := by
  obtain ⟨t, hmem, ht⟩ := exists_mem_of_givesUp (read_eq_tooLong_iff.1 h)
  exact runOfDigits_of_mem_tokens hmem ht

theorem numberAtom?_of_digits {c : CodePoint} {cs : Text} (hcs : ∀ d ∈ c :: cs, d.isDigit)
    (hzero : c ≠ '0') (hlimit : NumberFault.digitLimit < (c :: cs).length) :
    numberAtom? (c :: cs) = some (.overlong (c :: cs).length, (c :: cs).length) := by
  have hminus : c ≠ '-' := by
    rintro rfl
    exact absurd (hcs _ List.mem_cons_self) (by decide)
  have hwhole : wholeDigits (c :: cs) = c :: cs := by
    rw [wholeDigits, List.takeWhile_eq_self_iff.2 hcs]
    exact fun _ h => absurd (List.cons.inj h).1 hzero
  simp only [List.length_cons] at hlimit
  simp [numberAtom?, hminus, hwhole, fractionDigits, power?, hlimit]

theorem literal?_of_isDigit {c : CodePoint} (hc : c.isDigit) (cs : Text) :
    literal? (c :: cs) = none := by
  have hliterals : ∀ l ∈ literals, ∃ d rest, l.1 = d :: rest ∧ d.isDigit = false := by
    simp [literals, Text.ofString, Text.ofList, CodePoint.isDigit]
  rw [literal?, Option.map_eq_none_iff, List.find?_eq_none]
  intro l hl hprefix
  obtain ⟨d, rest, hl, hd⟩ := hliterals l hl
  rw [hl, List.isPrefixOf_iff_prefix] at hprefix
  obtain rfl := (List.cons_prefix_cons.1 hprefix).1
  rw [hc] at hd
  cases hd

theorem lexeme_of_isDigit {pos : Nat} {c : CodePoint} (hc : c.isDigit) {cs : Text} {l : Lexeme}
    {k : Nat} (h : numberAtom? (c :: cs) = some (l, k)) : (lexeme pos c cs).1 = l := by
  unfold lexeme
  split
  case h_8 =>
    rw [literal?_of_isDigit hc, h]
    rfl
  all_goals exact absurd hc (by decide)

theorem isLayout_of_isDigit {c : CodePoint} (hc : c.isDigit) : isLayout c = false := by
  rw [Bool.eq_false_iff]
  intro h
  simp only [isLayout, Bool.or_eq_true, decide_eq_true_eq] at h
  rcases h with ((rfl | rfl) | rfl) | rfl <;> exact absurd hc (by decide)

/-- Reading gives up at an integer of too many digits, although the array around it never ends. -/
theorem read_openArray_of_digits {c : CodePoint} {cs : Text} (hcs : ∀ d ∈ c :: cs, d.isDigit)
    (hzero : c ≠ '0') (hlimit : NumberFault.digitLimit < (c :: cs).length) :
    read (.char '[' :: c :: cs) = .error (.tooLong (c :: cs).length) := by
  have hc := hcs c List.mem_cons_self
  have hlexeme : (lexeme 1 c cs).1 = .overlong (c :: cs).length :=
    lexeme_of_isDigit hc (numberAtom?_of_digits hcs hzero hlimit)
  rw [read_eq_tooLong_iff, tokens_cons rfl]
  refine .later rfl ?_
  change GivesUp _ (.item []) (tokens 1 (c :: cs))
  rw [tokens_cons (isLayout_of_isDigit hc)]
  exact .here (.item []) hlexeme

end RuleGate.Json
