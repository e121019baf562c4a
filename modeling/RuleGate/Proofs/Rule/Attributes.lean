import RuleGate.Rule.Attributes

/-!
# Building attributes

Attributes grow by one value at a time. `ofAdditions` are those that a list of additions leaves;
they only depend on the additions to each key, not on how the keys take turns
(`ofAdditions_congr`). `only` keeps the values of one key, and for `block` those of `blockoffset`,
which says where the block is; `without` leaves out the values of one key.
-/

namespace RuleGate.Attributes

variable {V : Key → Type}

theorem getList_add (a : Attributes V) (k : Key) (v : V k) (k' : Key) :
    (a.add k v).getList k' = if h : k = k' then a.getList k' ++ [h ▸ v] else a.getList k' := rfl

theorem has_eq_true_iff {a : Attributes V} {k : Key} : a.has k = true ↔ a.getList k ≠ [] := by
  change (!(a.getList k).isEmpty) = true ↔ _
  simp

def ofAdditions (added : List (Σ k, V k)) : Attributes V :=
  added.foldl (fun a p => a.add p.1 p.2) .empty

def addedTo (k : Key) (added : List (Σ k, V k)) : List (V k) :=
  added.filterMap fun p => if h : p.1 = k then some (h ▸ p.2) else none

theorem addedTo_filter (k : Key) (added : List (Σ k, V k)) :
    addedTo k (added.filter fun p => p.1 = k) = addedTo k added := by
  unfold addedTo
  rw [List.filterMap_filter]
  congr 1
  funext p
  by_cases hp : p.1 = k <;> simp [hp]

theorem getList_foldl_add (a : Attributes V) (added : List (Σ k, V k)) (k : Key) :
    (added.foldl (fun a p => a.add p.1 p.2) a).getList k = a.getList k ++ addedTo k added := by
  induction added generalizing a with
  | nil => simp [addedTo]
  | cons p rest ih =>
    rw [List.foldl_cons, ih, getList_add]
    by_cases hp : p.1 = k <;> simp [addedTo, hp]

theorem ofAdditions_congr {added other : List (Σ k, V k)}
    (h : ∀ k, (added.filter fun p => p.1 = k) = other.filter fun p => p.1 = k) :
    ofAdditions added = ofAdditions other := by
  have hvalues (k : Key) : (ofAdditions added).getList k = (ofAdditions other).getList k := by
    rw [ofAdditions, ofAdditions, getList_foldl_add, getList_foldl_add, ← addedTo_filter k added,
      h k, addedTo_filter]
  exact congrArg mk (funext hvalues)

/-- The values of one key; `block` comes with those of `blockoffset`. -/
def only (a : Attributes V) (k : Key) : Attributes V where
  values k' := if k' = k ∨ (k = .block ∧ k' = .blockOffset) then a.values k' else []

theorem getList_only_self (a : Attributes V) (k : Key) : (a.only k).getList k = a.getList k :=
  if_pos (.inl rfl)

theorem getList_only_block (a : Attributes V) :
    (a.only .block).getList .blockOffset = a.getList .blockOffset := rfl

theorem has_only_of_ne (a : Attributes V) {k k' : Key} (hne : k' ≠ k) (ho : k' ≠ .blockOffset) :
    (a.only k).has k' = false := by
  have hempty : (a.only k).getList k' = [] := if_neg (by simp [hne, ho])
  change (!((a.only k).getList k').isEmpty) = false
  rw [hempty]
  rfl

def without (a : Attributes V) (k : Key) : Attributes V where
  values k' := if k' = k then [] else a.values k'

theorem getList_without_of_ne (a : Attributes V) {k k' : Key} (h : k' ≠ k) :
    (a.without k).getList k' = a.getList k' :=
  if_neg h

theorem has_without_self (a : Attributes V) (k : Key) : (a.without k).has k = false := by
  have hempty : (a.without k).getList k = [] := if_pos rfl
  change (!((a.without k).getList k).isEmpty) = false
  rw [hempty]
  rfl

end RuleGate.Attributes
