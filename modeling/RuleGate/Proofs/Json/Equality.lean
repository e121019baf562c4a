import Mathlib.Data.List.Perm.Subperm
import RuleGate.Proofs.Json.Order
import RuleGate.Proofs.Json.Reader
import RuleGate.Proofs.Schema

/-!
# Equality by content

Two values are equal if they have the same kind and equal parts (`Json.Equal`): numbers and truth
values stand at the same place of the line of numbers, arrays have equal items at the same positions
and objects equal values under the same names, in whatever order. Comparing decides this for values
in which no object has a name twice (`Json.same_iff_equal`), and no other value is ever read
(`Json.proper_of_read`).
-/

namespace RuleGate

theorem Number.place?_eq_none_iff {n : Number} : n.place? = none ↔ n = .float .nan := by
  rcases n with i | _ | negative | ⟨negative, mantissa, exponent⟩ <;> simp [place?, Double.value?]

namespace Json

/-- No object in it has a name twice. -/
def Proper (v : Json) : Prop :=
  ∀ fields, Within (.obj fields) v → (fields.map Prod.fst).Nodup

/-- The same value, apart from the order of fields and from how a number is written. What is no
number stands at no place and is equal to itself, as it is one object wherever it is read. -/
inductive Equal : Json → Json → Prop
  | null : Equal .null .null
  | number {v w : Json} {m n : Number} (hv : v.number? = some m) (hw : w.number? = some n)
      (h : m.place? = n.place?) : Equal v w
  | str (s : Text) : Equal (.str s) (.str s)
  | arr {vs ws : List Json} (hlength : vs.length = ws.length)
      (h : ∀ (i : Nat) v w, vs[i]? = some v → ws[i]? = some w → Equal v w) :
      Equal (.arr vs) (.arr ws)
  | obj {fs gs : Fields} (hnames : ∀ name, (fs.get? name).isSome ↔ (gs.get? name).isSome)
      (h : ∀ name v w, fs.get? name = some v → gs.get? name = some w → Equal v w) :
      Equal (.obj fs) (.obj gs)

variable {v w : Json} {vs ws : List Json} {fs gs : Fields}

namespace Proper

theorem within (h : Proper v) (hw : Within w v) : Proper w :=
  fun fields hfields => h fields (hfields.trans hw)

theorem item (h : Proper (.arr vs)) (hv : v ∈ vs) : Proper v :=
  h.within (.item hv .self)

theorem nodup (h : Proper (.obj fs)) : (fs.map Prod.fst).Nodup :=
  h fs .self

theorem value (h : Proper (.obj fs)) {name : Text} (hv : fs.get? name = some v) : Proper v :=
  h.within (.field (Table.mem_of_get? hv) .self)

theorem of_isSingle (h : v.isSingle) : Proper v := by
  intro fields hfields
  cases hfields with
  | self => cases h
  | item _ _ => cases h
  | field _ _ => cases h

theorem arr (h : ∀ v ∈ vs, Proper v) : Proper (.arr vs) := by
  intro fields hfields
  cases hfields with
  | item hmem hfields => exact h _ hmem fields hfields

theorem obj (hnames : (fs.map Prod.fst).Nodup) (h : ∀ e ∈ fs, Proper e.2) : Proper (.obj fs) := by
  intro fields hfields
  cases hfields with
  | self => exact hnames
  | field hmem hfields => exact h _ hmem fields hfields

end Proper

theorem sameNumber_iff : sameNumber v w = true ↔
    ∃ m n, v.number? = some m ∧ w.number? = some n ∧ m.place? = n.place? := by
  unfold sameNumber
  split
  case h_1 hv hw => exact iff_of_true rfl ⟨_, _, hv, hw, rfl⟩
  case h_2 m n hnan hv hw =>
    have hsome : m.same n = true ↔ m.place? = n.place? := by
      rw [Number.same]
      cases hm : m.place? with
      | some p => cases n.place? <;> simp
      | none =>
        refine iff_of_false Bool.false_ne_true fun hn => ?_
        obtain rfl := Number.place?_eq_none_iff.1 hm
        obtain rfl := Number.place?_eq_none_iff.1 hn.symm
        exact hnan rfl rfl
    simp [hv, hw, hsome]
  case h_3 h =>
    refine iff_of_false Bool.false_ne_true ?_
    rintro ⟨m, n, hv, hw, -⟩
    exact h m n hv hw

theorem sameItems_iff : sameItems vs ws = true ↔ vs.length = ws.length ∧
    ∀ (i : Nat) v w, vs[i]? = some v → ws[i]? = some w → same v w = true := by
  induction vs generalizing ws with
  | nil => cases ws <;> simp [sameItems]
  | cons v vs ih =>
    cases ws with
    | nil => simp [sameItems]
    | cons w ws =>
      rw [sameItems, Bool.and_eq_true, ih, List.length_cons, List.length_cons,
        Nat.add_right_cancel_iff]
      constructor
      · rintro ⟨hsame, hlength, h⟩
        refine ⟨hlength, fun i v' w' hv hw => ?_⟩
        cases i with
        | zero =>
          cases hv
          cases hw
          exact hsame
        | succ i => exact h i v' w' hv hw
      · rintro ⟨hlength, h⟩
        exact ⟨h 0 v w rfl rfl, hlength, fun i v' w' => h (i + 1) v' w'⟩

theorem sameFields_iff : sameFields fs gs = true ↔
    ∀ e ∈ fs, ∃ w, gs.get? e.1 = some w ∧ same e.2 w = true := by
  induction fs with
  | nil => simp [sameFields]
  | cons e fs ih =>
    obtain ⟨name, v⟩ := e
    rw [sameFields, Bool.and_eq_true, ih, List.forall_mem_cons]
    refine and_congr_left fun _ => ?_
    cases gs.get? name <;> simp

/-- As many fields, each with the same value in the other object, are all of its fields. -/
theorem sameObject_iff (hfs : (fs.map Prod.fst).Nodup) (hgs : (gs.map Prod.fst).Nodup) :
    fs.length = gs.length ∧ sameFields fs gs = true ↔
      (∀ name, (fs.get? name).isSome ↔ (gs.get? name).isSome) ∧
      ∀ name v w, fs.get? name = some v → gs.get? name = some w → same v w = true := by
  have hmem (t : Fields) (name : Text) : (t.get? name).isSome ↔ name ∈ t.map Prod.fst := by
    rw [Table.isSome_get?_iff, List.mem_map]
  rw [sameFields_iff]
  constructor
  · rintro ⟨hlength, h⟩
    have hsub : fs.map Prod.fst ⊆ gs.map Prod.fst := by
      intro name hname
      obtain ⟨e, he, rfl⟩ := List.mem_map.1 hname
      obtain ⟨w, hw, -⟩ := h e he
      exact (hmem gs e.1).1 (hw ▸ rfl)
    have hperm : (fs.map Prod.fst).Perm (gs.map Prod.fst) :=
      (hfs.subperm hsub).perm_of_length_le (by rw [List.length_map, List.length_map, hlength])
    refine ⟨fun name => ?_, fun name v w hv hw => ?_⟩
    · rw [hmem, hmem, hperm.mem_iff]
    · obtain ⟨w', hw', hsame⟩ := h _ (Table.mem_of_get? hv)
      obtain rfl := Option.some.inj (hw.symm.trans hw')
      exact hsame
  · rintro ⟨hnames, h⟩
    have hperm : (fs.map Prod.fst).Perm (gs.map Prod.fst) :=
      (List.perm_ext_iff_of_nodup hfs hgs).2 fun name => by rw [← hmem, ← hmem, hnames]
    refine ⟨by simpa using hperm.length_eq, fun e he => ?_⟩
    have hv := (Table.get?_eq_some_iff_mem hfs).2 he
    obtain ⟨w, hw⟩ := Option.isSome_iff_exists.1 ((hnames e.1).1 (hv ▸ rfl))
    exact ⟨w, hw, h e.1 e.2 w hv hw⟩

theorem same_arr_iff : same (.arr vs) w = true ↔ ∃ ws, w = .arr ws ∧ vs.length = ws.length ∧
    ∀ (i : Nat) v w, vs[i]? = some v → ws[i]? = some w → same v w = true := by
  cases w with
  | arr ws => simp only [same, sameItems_iff, arr.injEq, exists_eq_left']
  | _ =>
    refine iff_of_false Bool.false_ne_true ?_
    rintro ⟨ws, heq, -⟩
    cases heq

theorem same_obj_iff (hfs : (obj fs).Proper) (hw : Proper w) : same (.obj fs) w = true ↔
    ∃ gs : Fields, w = .obj gs ∧ (∀ name, (fs.get? name).isSome ↔ (gs.get? name).isSome) ∧
      ∀ name v w, fs.get? name = some v → gs.get? name = some w → same v w = true := by
  cases w with
  | obj gs =>
    rw [same, Bool.and_eq_true, decide_eq_true_iff, sameObject_iff hfs.nodup hw.nodup]
    simp only [obj.injEq, exists_eq_left']
  | _ =>
    refine iff_of_false Bool.false_ne_true ?_
    rintro ⟨gs, heq, -⟩
    cases heq

theorem same_iff_equal_of_isSingle (h : v.isSingle) : same v w = true ↔ Equal v w := by
  have hnumber (hsame : same v w = sameNumber v w) {m : Number} (hv : v.number? = some m) :
      same v w = true ↔ Equal v w := by
    rw [hsame, sameNumber_iff]
    constructor
    · rintro ⟨m, n, hv, hw, hplace⟩
      exact .number hv hw hplace
    · intro heq
      cases heq with
      | number hv hw hplace => exact ⟨_, _, hv, hw, hplace⟩
      | _ => cases hv
  cases v with
  | null =>
    cases w with
    | null => exact iff_of_true rfl .null
    | _ =>
      refine iff_of_false Bool.false_ne_true fun heq => ?_
      cases heq with
      | number hv _ _ => cases hv
  | str s =>
    cases w with
    | str t =>
      rw [same, decide_eq_true_iff]
      constructor
      · rintro rfl
        exact .str s
      · intro heq
        cases heq with
        | number hv _ _ => cases hv
        | str _ => rfl
    | _ =>
      refine iff_of_false Bool.false_ne_true fun heq => ?_
      cases heq with
      | number hv _ _ => cases hv
  | bool b => exact hnumber (by cases w <;> rfl) rfl
  | int i => exact hnumber (by cases w <;> rfl) rfl
  | float d => exact hnumber (by cases w <;> rfl) rfl
  | arr _ => cases h
  | obj _ => cases h

theorem equal_arr_iff : Equal (.arr vs) w ↔ ∃ ws, w = .arr ws ∧ vs.length = ws.length ∧
    ∀ (i : Nat) v w, vs[i]? = some v → ws[i]? = some w → Equal v w := by
  constructor
  · intro heq
    cases heq with
    | number hv _ _ => cases hv
    | arr hlength h => exact ⟨_, rfl, hlength, h⟩
  · rintro ⟨ws, rfl, hlength, h⟩
    exact .arr hlength h

theorem equal_obj_iff : Equal (.obj fs) w ↔
    ∃ gs : Fields, w = .obj gs ∧ (∀ name, (fs.get? name).isSome ↔ (gs.get? name).isSome) ∧
      ∀ name v w, fs.get? name = some v → gs.get? name = some w → Equal v w := by
  constructor
  · intro heq
    cases heq with
    | number hv _ _ => cases hv
    | obj hnames h => exact ⟨_, rfl, hnames, h⟩
  · rintro ⟨gs, rfl, hnames, h⟩
    exact .obj hnames h

theorem sizeOf_lt_arr (h : v ∈ vs) : sizeOf v < sizeOf (arr vs) := by
  have hitem := List.sizeOf_lt_of_mem h
  simp only [arr.sizeOf_spec]
  omega

theorem sizeOf_lt_obj {name : Text} (h : (name, v) ∈ fs) : sizeOf v < sizeOf (obj fs) := by
  have hfield := List.sizeOf_lt_of_mem h
  simp only [Prod.mk.sizeOf_spec] at hfield
  simp only [obj.sizeOf_spec]
  omega

/-- Comparing decides equality, by induction on the value with all of its parts. -/
theorem same_iff_equal (v w : Json) (hv : Proper v) (hw : Proper w) :
    same v w = true ↔ Equal v w := by
  match v with
  | .arr vs =>
    rw [same_arr_iff, equal_arr_iff]
    refine exists_congr fun ws => and_congr_right ?_
    rintro rfl
    refine and_congr_right fun _ => forall₅_congr fun i u u' hu hu' => ?_
    have hmem := List.mem_of_getElem? hu
    exact same_iff_equal u u' (hv.item hmem) (hw.item (List.mem_of_getElem? hu'))
  | .obj fs =>
    rw [same_obj_iff hv hw, equal_obj_iff]
    refine exists_congr fun gs => and_congr_right ?_
    rintro rfl
    refine and_congr_right fun _ => forall₅_congr fun name u u' hu hu' => ?_
    have hmem := Table.mem_of_get? hu
    exact same_iff_equal u u' (hv.value hu) (hw.value hu')
  | .null | .bool _ | .int _ | .float _ | .str _ => exact same_iff_equal_of_isSingle rfl
termination_by v
decreasing_by
  · exact sizeOf_lt_arr hmem
  · exact sizeOf_lt_obj hmem

/-! ### What is read -/

theorem isSingle_of_literal? {cs : Text} {k : Nat} (h : literal? cs = some (.atom v, k)) :
    v.isSingle := by
  have hall : ∀ l ∈ literals, l.2.isSingle := by simp [literals, isSingle]
  obtain ⟨l, hl, heq⟩ := Option.map_eq_some_iff.1 h
  cases heq
  exact hall l (List.mem_of_find?_eq_some hl)

theorem isSingle_of_numberAtom? {cs : Text} {k : Nat} (h : numberAtom? cs = some (.atom v, k)) :
    v.isSingle := by
  unfold numberAtom? at h
  extract_lets negative signLength body whole at h
  split at h
  · cases h
  · split at h
    · cases h
      rfl
    · split_ifs at h with _ hlimit
      · cases h
      · obtain rfl := Lexeme.atom.inj (Prod.mk.inj (Option.some.inj h)).1
        rfl
      · obtain rfl := Lexeme.atom.inj (Prod.mk.inj (Option.some.inj h)).1
        rfl

theorem isSingle_of_lexeme {pos : Nat} {c : CodePoint} {cs : Text}
    (h : (lexeme pos c cs).1 = .atom v) : v.isSingle := by
  unfold lexeme at h
  split at h
  case h_7 => split at h <;> cases h
  case h_8 =>
    split at h
    case h_1 l k heq =>
      obtain rfl : l = .atom v := h
      cases hliteral : literal? (c :: cs) with
      | none =>
        rw [hliteral] at heq
        exact isSingle_of_numberAtom? heq
      | some found =>
        rw [hliteral] at heq
        obtain rfl := Option.some.inj heq
        exact isSingle_of_literal? hliteral
    case h_2 => cases h
  all_goals cases h

theorem isSingle_of_mem_tokens {pos : Nat} {cs : Text} {t : Token} (h : t ∈ tokens pos cs)
    (ht : t.lexeme = .atom v) : v.isSingle := by
  induction pos, cs using tokens.induct with
  | case1 pos =>
    rw [tokens, List.mem_singleton] at h
    subst h
    cases ht
  | case2 pos c rest hlayout ih =>
    rw [tokens, if_pos hlayout] at h
    exact ih h
  | case3 pos c rest hlayout l k hlexeme ih =>
    rw [tokens_cons (Bool.eq_false_iff.2 hlayout), hlexeme] at h
    rcases List.mem_cons.1 h with rfl | h
    · exact isSingle_of_lexeme (by rw [hlexeme]; exact ht)
    · exact ih h

def Frame.Proper : Frame → Prop
  | .array done => ∀ v ∈ done, v.Proper
  | .object done _ => (obj done).Proper

/-- Everything that has been read so far is proper. -/
def State.Proper : State → Prop
  | .value frames | .item frames | .field frames => ∀ f ∈ frames, f.Proper
  | .name frames done | .colon frames done _ => (∀ f ∈ frames, f.Proper) ∧ (obj done).Proper
  | .after frames v => (∀ f ∈ frames, f.Proper) ∧ v.Proper

theorem proper_insert (h : Proper (.obj fs)) (name : Text) (hv : Proper v) :
    Proper (.obj (Table.insert fs name v)) := by
  refine .obj (Table.nodup_insert h.nodup name v) fun e he => ?_
  rcases Table.mem_insert he with rfl | he
  · exact hv
  · exact h.within (.field he .self)

namespace State

variable {s s' : State} {t : Token} {frames : List Frame}

theorem proper_onValue (hframes : ∀ f ∈ frames, f.Proper)
    (ht : ∀ v, t.lexeme = .atom v → v.isSingle) (h : onValue frames t = .ok s') : s'.Proper := by
  unfold onValue at h
  split at h
  case h_1 | h_2 =>
    cases h
    exact hframes
  case h_3 =>
    cases h
    exact ⟨hframes, .of_isSingle rfl⟩
  case h_4 v hatom =>
    cases h
    exact ⟨hframes, .of_isSingle (ht v hatom)⟩
  all_goals cases h

theorem proper_onName {done : Fields} (hframes : ∀ f ∈ frames, f.Proper)
    (hdone : (obj done).Proper) (h : onName frames done t = .ok s') : s'.Proper := by
  unfold onName at h
  split at h
  case h_1 =>
    cases h
    exact ⟨hframes, hdone⟩
  all_goals cases h

theorem proper_onAfter (hframes : ∀ f ∈ frames, f.Proper) (hv : v.Proper)
    (h : onAfter v t frames = .ok s') : s'.Proper := by
  unfold onAfter at h
  cases frames with
  | nil => cases h
  | cons frame frames =>
    obtain ⟨hframe, hrest⟩ := List.forall_mem_cons.1 hframes
    cases frame with
    | array done =>
      have hitems : ∀ w ∈ v :: done, w.Proper := List.forall_mem_cons.2 ⟨hv, hframe⟩
      dsimp only at h
      split at h
      · cases h
        exact List.forall_mem_cons.2 ⟨hitems, hrest⟩
      · cases h
        exact ⟨hrest, .arr fun w hw => hitems w (List.mem_reverse.1 hw)⟩
      · cases h
    | object done name =>
      have hfields := proper_insert hframe name hv
      dsimp only at h
      split at h
      · cases h
        exact ⟨hrest, hfields⟩
      · cases h
        exact ⟨hrest, hfields⟩
      · cases h

theorem proper_step (hs : s.Proper) (ht : ∀ v, t.lexeme = .atom v → v.isSingle)
    (h : s.step t = .ok s') : s'.Proper := by
  have hempty : (obj []).Proper := .obj List.nodup_nil fun _ he => absurd he List.not_mem_nil
  cases s with
  | value frames => exact proper_onValue hs ht h
  | item frames =>
    simp only [step] at h
    split at h
    · cases h
      exact ⟨hs, .arr fun _ hv => absurd hv List.not_mem_nil⟩
    · have harray : ∀ f ∈ Frame.array [] :: frames, f.Proper :=
        List.forall_mem_cons.2 ⟨fun _ hv => absurd hv List.not_mem_nil, hs⟩
      exact proper_onValue harray ht h
  | name frames done => exact proper_onName hs.1 hs.2 h
  | field frames =>
    simp only [step] at h
    split at h
    · cases h
      exact ⟨hs, hempty⟩
    · exact proper_onName hs hempty h
  | colon frames done key =>
    simp only [step] at h
    split at h
    · cases h
      exact List.forall_mem_cons.2 ⟨hs.2, hs.1⟩
    · cases h
  | after frames v => exact proper_onAfter hs.1 hs.2 h

theorem proper_run {ts : List Token} (hs : s.Proper)
    (hts : ∀ t ∈ ts, ∀ v, t.lexeme = .atom v → v.isSingle) (h : s.run ts = .ok v) : v.Proper := by
  induction ts generalizing s with
  | nil =>
    rw [run_nil] at h
    cases h
  | cons t rest ih =>
    obtain ⟨ht, hrest⟩ := List.forall_mem_cons.1 hts
    rcases run_cons_eq_ok_iff.1 h with ⟨s', hstep, h⟩ | ⟨rfl, hfinish, rfl⟩
    · exact ih (proper_step hs ht hstep) hrest h
    · exact hs.2

end State

/-- No object that is read has a name twice: of two values under a name the later counts. -/
theorem proper_of_read {text : Text} (h : read text = .ok v) : v.Proper := by
  unfold read at h
  split at h
  · cases h
  · exact State.proper_run (s := .value []) (fun _ hf => absurd hf List.not_mem_nil)
      (fun _ ht _ => isSingle_of_mem_tokens ht) h

end Json
end RuleGate
