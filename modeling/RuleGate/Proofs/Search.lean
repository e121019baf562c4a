import RuleGate.Proofs.Descriptor.Numbers

/-!
# Searching with tests that may fail

A search runs a test on one item after another, up to the first that passes; a test without an
answer ends it. It has no answer exactly when such a test is *reached*: all before it do not pass
(`Except.anyM_eq_error_iff`).

A search through several lists one after another says whether one of the searches through a single
list succeeds, provided that each of these has an answer (`Except.isAny_anyM_flatten`). The same
holds of a search for something of which one of the lists approves, although there the lists take
turns (`Except.isAny_anyM_anyM_flatten`): up to where the whole search ends, each list has been
asked what it is asked when it is searched alone.

Where all tests have an answer their order does not matter: a search *decides* whether there is an
item that passes (`Except.Decides.anyM`), and asking for all of several lists decides whether each
of them passes (`Except.decides_allM_flatten`).
-/

namespace Except

open RuleGate (Reaches)

variable {ε α : Type} {p : α → Except ε Bool}

theorem anyM_append (xs ys : List α) : (xs ++ ys).anyM p = (do
    if ← xs.anyM p then return true else ys.anyM p) := by
  induction xs with
  | nil => simp
  | cons x rest ih =>
    rw [List.cons_append, List.anyM_cons, List.anyM_cons]
    cases p x with
    | error e => rfl
    | ok b => cases b <;> simp [ih]

theorem anyM_eq_error_iff {xs : List α} :
    (∃ e, xs.anyM p = .error e) ↔ Reaches (fun x => p x = .ok false) (fun x => ∃ e, p x = .error e)
      xs := by
  induction xs with
  | nil => simp [Reaches]
  | cons x rest ih =>
    rw [List.anyM_cons, Reaches, ← ih]
    cases p x with
    | error e => simp
    | ok b => cases b <;> simp

theorem allM_eq_error_iff {xs : List α} :
    (∃ e, xs.allM p = .error e) ↔ Reaches (fun x => p x = .ok true) (fun x => ∃ e, p x = .error e)
      xs := by
  induction xs with
  | nil => simp [Reaches]
  | cons x rest ih =>
    rw [List.allM_cons, Reaches, ← ih]
    cases p x with
    | error e => simp
    | ok b => cases b <;> simp

theorem anyM_ne_true {xs : List α} (h : ∀ x ∈ xs, p x ≠ .ok true) : xs.anyM p ≠ .ok true := by
  induction xs with
  | nil => simp
  | cons x rest ih =>
    obtain ⟨hx, hrest⟩ := List.forall_mem_cons.1 h
    rw [List.anyM_cons]
    rcases hp : p x with e | _ | _
    · simp
    · simpa using ih hrest
    · exact absurd hp hx

/-- An answer that is yes exactly if one of several answers is. -/
def IsAny (x : Except ε Bool) (ys : List (Except ε Bool)) : Prop :=
  ∃ b, x = .ok b ∧ (b = true ↔ .ok true ∈ ys)

theorem isAny_ok {b : Bool} {ys : List (Except ε Bool)} :
    IsAny (.ok b) ys ↔ (b = true ↔ .ok true ∈ ys) := by
  simp [IsAny]

theorem isAny_anyM_flatten {parts : List (List α)}
    (h : ∀ xs ∈ parts, ∃ b, xs.anyM p = .ok b) :
    IsAny (parts.flatten.anyM p) (parts.map fun xs => xs.anyM p) := by
  induction parts with
  | nil => exact ⟨false, rfl, by simp⟩
  | cons xs rest ih =>
    obtain ⟨⟨b, hb⟩, hrest⟩ := List.forall_mem_cons.1 h
    rw [List.flatten_cons, anyM_append, List.map_cons, hb]
    cases b with
    | true => exact ⟨true, rfl, by simp⟩
    | false =>
      obtain ⟨b', hb', hmem⟩ := ih hrest
      exact ⟨b', hb', by simpa using hmem⟩

theorem isAny_anyM_anyM_flatten {σ : Type} {q : σ → α → Except ε Bool} {held : List σ}
    {parts : List (List α)}
    (h : ∀ xs ∈ parts, ∃ b, held.anyM (fun s => xs.anyM (q s)) = .ok b) :
    IsAny (held.anyM fun s => parts.flatten.anyM (q s))
      (parts.map fun xs => held.anyM fun s => xs.anyM (q s)) := by
  induction held with
  | nil => exact ⟨false, rfl, by simp⟩
  | cons s rest ih =>
    have hfirst (xs : List α) (hxs : xs ∈ parts) : ∃ b, xs.anyM (q s) = .ok b := by
      obtain ⟨b, hb⟩ := h xs hxs
      rw [List.anyM_cons, bind_eq_ok_iff] at hb
      obtain ⟨b', hb', _⟩ := hb
      exact ⟨b', hb'⟩
    obtain ⟨b, hb, hmem⟩ := isAny_anyM_flatten hfirst
    rw [List.anyM_cons, hb]
    cases b with
    | true =>
      obtain ⟨xs, hxs, htrue⟩ := List.mem_map.1 (hmem.1 rfl)
      refine ⟨true, rfl, iff_of_true rfl (List.mem_map.2 ⟨xs, hxs, ?_⟩)⟩
      rw [List.anyM_cons, htrue]
      rfl
    | false =>
      -- no list approves of the first one, so all of them go on to the rest
      have hgo (xs : List α) (hxs : xs ∈ parts) :
          ((s :: rest).anyM fun s => xs.anyM (q s)) = rest.anyM fun s => xs.anyM (q s) := by
        obtain ⟨b', hb'⟩ := hfirst xs hxs
        cases b' with
        | true => exact absurd (hmem.2 (List.mem_map.2 ⟨xs, hxs, hb'⟩)) Bool.false_ne_true
        | false =>
          rw [List.anyM_cons, hb']
          rfl
      rw [List.map_congr_left hgo]
      exact ih fun xs hxs => hgo xs hxs ▸ h xs hxs

/-- An answer that is yes exactly if something is the case. -/
def Decides (x : Except ε Bool) (P : Prop) : Prop :=
  ∃ b, x = .ok b ∧ (b = true ↔ P)

namespace Decides

variable {x y : Except ε Bool} {P Q : Prop}

theorem eq_true_iff (h : Decides x P) : x = .ok true ↔ P := by
  obtain ⟨b, rfl, hb⟩ := h
  rw [← hb, Except.ok.injEq]

theorem congr (h : Decides x P) (hPQ : P ↔ Q) : Decides x Q := by
  obtain ⟨b, hx, hb⟩ := h
  exact ⟨b, hx, hb.trans hPQ⟩

theorem self (h : ∃ b, x = .ok b) : Decides x (x = .ok true) := by
  obtain ⟨b, rfl⟩ := h
  exact ⟨b, rfl, by simp⟩

theorem unique (h : Decides x P) (h' : Decides y P) : x = y := by
  obtain ⟨b, rfl, hb⟩ := h
  obtain ⟨b', rfl, hb'⟩ := h'
  rw [Bool.eq_iff_iff.2 (hb.trans hb'.symm)]

theorem and (h : Decides x P) (h' : Decides y Q) :
    Decides (do if ← x then y else return false) (P ∧ Q) := by
  obtain ⟨b, rfl, hb⟩ := h
  cases b with
  | false => exact ⟨false, rfl, by simp [← hb]⟩
  | true =>
    refine h'.congr ?_
    simp [← hb]

theorem anyM {xs : List α} {P : α → Prop} (h : ∀ x ∈ xs, Decides (p x) (P x)) :
    Decides (xs.anyM p) (∃ x ∈ xs, P x) := by
  induction xs with
  | nil => exact ⟨false, rfl, by simp⟩
  | cons x rest ih =>
    obtain ⟨⟨b, hx, hb⟩, hrest⟩ := List.forall_mem_cons.1 h
    rw [List.anyM_cons, hx]
    cases b with
    | true => exact ⟨true, rfl, by simp [← hb]⟩
    | false =>
      refine (ih hrest).congr ?_
      simp [← hb]

end Decides

/-- A search that has come to an answer decides whether there is an item that passes, even if some
items have no answer. -/
theorem decides_anyM_of_ok {xs : List α} (h : ∃ b, xs.anyM p = .ok b) :
    Decides (xs.anyM p) (∃ x ∈ xs, p x = .ok true) := by
  obtain ⟨b, hb⟩ := h
  induction xs with
  | nil => exact ⟨false, rfl, by simp⟩
  | cons x rest ih =>
    rw [List.anyM_cons] at hb ⊢
    rcases hx : p x with e | _ | _
    · rw [hx] at hb
      cases hb
    · rw [hx] at hb
      refine (ih hb).congr ?_
      simp [hx]
    · exact ⟨true, rfl, by simp [hx]⟩

theorem forall_eq_false_of_anyM {xs : List α} (h : xs.anyM p = .ok false) :
    ∀ x ∈ xs, p x = .ok false := by
  induction xs with
  | nil => exact List.forall_mem_nil _
  | cons x rest ih =>
    rw [List.anyM_cons] at h
    rcases hx : p x with e | _ | _
    · rw [hx] at h
      cases h
    · rw [hx] at h
      exact List.forall_mem_cons.2 ⟨hx, ih h⟩
    · rw [hx] at h
      cases h

theorem allM_append (xs ys : List α) : (xs ++ ys).allM p = (do
    if ← xs.allM p then ys.allM p else return false) := by
  induction xs with
  | nil => simp
  | cons x rest ih =>
    rw [List.cons_append, List.allM_cons, List.allM_cons, ih]
    rcases p x with e | _ | _ <;> rfl

theorem decides_allM_insert {xs ys : List α} {x : α} {P : Prop}
    (h : ∃ b, (xs ++ ys).allM p = .ok b) (hx : Decides (p x) P) :
    Decides ((xs ++ x :: ys).allM p) ((xs ++ ys).allM p = .ok true ∧ P) := by
  induction xs with
  | nil =>
    rw [List.nil_append, List.nil_append, List.allM_cons]
    exact (hx.and (.self h)).congr and_comm
  | cons y rest ih =>
    rw [List.cons_append, List.allM_cons] at h ⊢
    rw [List.cons_append, List.allM_cons]
    rcases hy : p y with e | _ | _
    · rw [hy] at h
      obtain ⟨_, h⟩ := h
      cases h
    · exact ⟨false, rfl, by simp⟩
    · rw [hy] at h
      exact ih h

theorem decides_allM_flatten {parts : List (List α)} (h : ∀ xs ∈ parts, ∃ b, xs.allM p = .ok b) :
    Decides (parts.flatten.allM p) (∀ xs ∈ parts, xs.allM p = .ok true) := by
  induction parts with
  | nil => exact ⟨true, rfl, by simp⟩
  | cons xs rest ih =>
    obtain ⟨hxs, hrest⟩ := List.forall_mem_cons.1 h
    rw [List.flatten_cons, allM_append, List.forall_mem_cons]
    exact (Decides.self hxs).and (ih hrest)

end Except
