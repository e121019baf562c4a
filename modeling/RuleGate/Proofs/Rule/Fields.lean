import RuleGate.Proofs.Rule.Attributes

/-!
# Attributes of an object

What the attributes of a JSON object hold for a key is what its fields give to that key, one field
after another (`RuleAttributes.getList_ofFields`). A field gives something only to the key that it
names, and all of its values or none.
-/

namespace RuleGate.RuleAttributes

/-- The values of a key, unless one of them does not fit. -/
def valuesOf (k : Key) (vs : List Json) : List k.Value :=
  match readAll k vs with
  | .ok xs => xs
  | .error _ => []

/-- The values that a field gives to a key. -/
def given (k : Key) (field : Text × Json) : List k.Value :=
  if Key.ofName? field.1 = some k then valuesOf k (itemsOf field.2) else []

theorem given_of_name {k : Key} {name : Text} (hname : Key.ofName? name = some k) (v : Json) :
    given k (name, v) = valuesOf k (itemsOf v) :=
  if_pos hname

theorem given_of_name_ne {k : Key} {field : Text × Json} (hname : Key.ofName? field.1 ≠ some k) :
    given k field = [] :=
  if_neg hname

theorem readAll_cons (k : Key) (v : Json) (rest : List Json) : readAll k (v :: rest) = (do
    let xs ← readAll k [v]
    let ys ← readAll k rest
    return xs ++ ys) := by
  rw [readAll, readAll]
  cases k.type.shape v with
  | invalid p _ => rfl
  | valid x => cases readAll k rest <;> rfl

theorem readAll_singleton (k : Key) (v : Json) :
    (∃ x, readAll k [v] = .ok [x]) ∨ ∃ complaint, readAll k [v] = .error complaint := by
  rw [readAll]
  cases k.type.shape v with
  | valid x => exact .inl ⟨x, rfl⟩
  | invalid p _ => exact .inr ⟨_, rfl⟩

theorem valuesOf_singleton (k : Key) (v : Json) :
    valuesOf k [v] = [] ∨ ∃ x, valuesOf k [v] = [x] := by
  unfold valuesOf
  rcases readAll_singleton k v with ⟨x, hx⟩ | ⟨complaint, hx⟩ <;> simp [hx]

theorem valuesOf_eq_flatMap {k : Key} {vs : List Json} (h : ∀ v ∈ vs, valuesOf k [v] ≠ []) :
    valuesOf k vs = vs.flatMap fun v => valuesOf k [v] := by
  have hread : readAll k vs = .ok (vs.flatMap fun v => valuesOf k [v]) := by
    induction vs with
    | nil => rfl
    | cons v rest ih =>
      obtain ⟨hv, hrest⟩ := List.forall_mem_cons.1 h
      rw [readAll_cons, ih hrest, List.flatMap_cons]
      rcases readAll_singleton k v with ⟨x, hx⟩ | ⟨complaint, hx⟩
      · have hvalue : valuesOf k [v] = [x] := by simp only [valuesOf, hx]
        rw [hx, hvalue]
        rfl
      · exact absurd (by simp only [valuesOf, hx]) hv
  simp only [valuesOf, hread]

theorem getList_addAll (a : RuleAttributes) (k : Key) (vs : List k.Value) (k' : Key) :
    (a.addAll k vs).getList k' = a.getList k' ++ if h : k = k' then h ▸ vs else [] := by
  unfold Attributes.addAll
  induction vs generalizing a with
  | nil =>
    by_cases hk : k = k'
    · subst hk
      simp
    · simp [hk]
  | cons v rest ih =>
    rw [List.foldl_cons, ih, Attributes.getList_add]
    by_cases hk : k = k'
    · subst hk
      simp
    · simp [hk]

theorem getList_addNamed (a : RuleAttributes) (name : Text) (v : Json) (k : Key) :
    (addNamed a name v).1.getList k = a.getList k ++ given k (name, v) := by
  unfold addNamed
  cases hname : Key.ofName? name with
  | none => simp [given, hname]
  | some named =>
    cases hread : readAll named (itemsOf v) with
    | error complaint =>
      by_cases hk : named = k
      · subst hk
        simp [given, valuesOf, hname, hread]
      · simp [given, hname, hread, hk]
    | ok vs =>
      simp only [hread, getList_addAll]
      by_cases hk : named = k
      · subst hk
        simp [given, valuesOf, hname, hread]
      · simp [given, hname, hk]

theorem getList_addFields (a : RuleAttributes) (fields : Fields) (k : Key) :
    (addFields a fields).1.getList k = a.getList k ++ fields.flatMap (given k) := by
  induction fields generalizing a with
  | nil => simp [addFields]
  | cons field rest ih =>
    obtain ⟨name, v⟩ := field
    rw [addFields, ih, getList_addNamed, List.flatMap_cons, List.append_assoc]

theorem getList_ofFields (fields : Fields) (k : Key) :
    (ofFields fields).1.getList k = fields.flatMap (given k) := by
  rw [ofFields, getList_addFields]
  rfl

end RuleGate.RuleAttributes
