import RuleGate.Proofs.World.Registry

/-!
# Block states in the order of their properties

Texts are ordered by their code points, and different texts have different places in that order. A
state with its properties in order (`BlockState.Ordered`) is known from its block and from what is
found under each name (`BlockState.eq_iff_of_ordered`). Assigning a value keeps the order and shows
in every later look (`BlockState.get?_assign`), and of all values that a state is made of the last
one for a name counts (`BlockState.get?_of`). So the default state of a block has the first value of
each of its properties, if none is declared twice (`Registry.get?_of_defaultState?`).

However a state is made, it is in order and its block has its normal form (`Made.canonical`). From
this follow the laws of assignment (`BlockState.lawful_of_made`): values of different names may be
assigned in any order, and of two values for one name the later one stays.
-/

namespace RuleGate

namespace CodePoint

theorem toNat_char_ne_half (c : Char) (n : Fin 0x800) : (char c).toNat ≠ (half n).toNat := by
  intro h
  have hvalid : c.toNat < 0xd800 ∨ 0xdfff < c.toNat ∧ c.toNat < 0x110000 := c.valid
  have hn := n.isLt
  change c.toNat = 0xd800 + n at h
  omega

theorem toNat_injective : Function.Injective toNat := by
  intro a b h
  cases a with
  | char c =>
    cases b with
    | char d => exact congrArg char (Char.toNat_inj.1 h)
    | half n => exact absurd h (toNat_char_ne_half c n)
  | half n =>
    cases b with
    | char d => exact absurd h.symm (toNat_char_ne_half d n)
    | half m => exact congrArg half (Fin.ext (Nat.add_left_cancel h))

instance : Std.Asymm (α := CodePoint) (· < ·) where
  asymm _ _ h := Nat.lt_asymm h

instance : Trans (α := CodePoint) (· < ·) (· < ·) (· < ·) where
  trans h h' := Nat.lt_trans h h'

instance : Std.Trichotomous (α := CodePoint) (· < ·) where
  trichotomous _ _ h h' :=
    toNat_injective (Nat.le_antisymm (Nat.le_of_not_lt h') (Nat.le_of_not_lt h))

end CodePoint

theorem Text.lt_of_not_lt {s t : Text} (h : ¬ s < t) (hne : s ≠ t) : t < s :=
  (List.le_iff_lt_or_eq.1 (List.not_lt.1 h)).resolve_right hne.symm

namespace BlockState

/-- The properties stand in the order of their names, none of them twice. -/
def Ordered (s : BlockState) : Prop :=
  s.properties.Pairwise fun p q => p.1 < q.1

variable {s s' : BlockState}

theorem get?_eq (s : BlockState) (name : Text) : s.get? name = Table.get? s.properties name := by
  unfold get?
  induction s.properties with
  | nil => rfl
  | cons entry rest ih =>
    obtain ⟨n, v⟩ := entry
    rw [Table.get?, ← ih]
    by_cases h : n = name <;> simp [h]

theorem get?_assignIn (name value other : Text) (ps : Table Text Text) :
    Table.get? (assignIn name value ps) other =
      if name = other then some value else ps.get? other := by
  induction ps with
  | nil => rfl
  | cons entry rest ih =>
    obtain ⟨n, v⟩ := entry
    rw [assignIn]
    split
    case isTrue => rfl
    case isFalse =>
      split
      case isTrue heq =>
        subst heq
        by_cases h : name = other <;> simp [Table.get?, h]
      case isFalse hne =>
        rw [Table.get?, Table.get?, ih]
        by_cases h : n = other
        · have hname : name ≠ other := fun heq => hne (heq.trans h.symm)
          rw [if_pos h, if_neg hname, if_pos h]
        · rw [if_neg h, if_neg h]

theorem get?_assign (s : BlockState) (name value other : Text) :
    (s.assign name value).get? other = if name = other then some value else s.get? other := by
  rw [get?_eq, get?_eq]
  exact get?_assignIn name value other s.properties

theorem mem_assignIn {name value : Text} {ps : List (Text × Text)} {p : Text × Text}
    (h : p ∈ assignIn name value ps) : p = (name, value) ∨ p ∈ ps := by
  induction ps with
  | nil => exact .inl (List.mem_singleton.1 h)
  | cons entry rest ih =>
    obtain ⟨n, v⟩ := entry
    rw [assignIn] at h
    split at h
    · exact List.mem_cons.1 h
    · split at h
      · exact (List.mem_cons.1 h).imp_right (List.mem_cons_of_mem _)
      · rcases List.mem_cons.1 h with rfl | hrest
        · exact .inr List.mem_cons_self
        · exact (ih hrest).imp_right (List.mem_cons_of_mem _)

theorem pairwise_assignIn {name value : Text} {ps : List (Text × Text)}
    (h : ps.Pairwise fun p q => p.1 < q.1) :
    (assignIn name value ps).Pairwise fun p q => p.1 < q.1 := by
  induction ps with
  | nil => exact List.pairwise_singleton _ _
  | cons entry rest ih =>
    obtain ⟨n, v⟩ := entry
    obtain ⟨hfirst, hrest⟩ := List.pairwise_cons.1 h
    rw [assignIn]
    split
    case isTrue hlt =>
      refine List.pairwise_cons.2 ⟨List.forall_mem_cons.2 ⟨hlt, fun p hp => ?_⟩, h⟩
      exact List.lt_trans hlt (hfirst p hp)
    case isFalse hnlt =>
      split
      case isTrue heq => exact List.pairwise_cons.2 ⟨heq ▸ hfirst, hrest⟩
      case isFalse hne =>
        refine List.pairwise_cons.2 ⟨fun p hp => ?_, ih hrest⟩
        rcases mem_assignIn hp with rfl | hp
        · exact Text.lt_of_not_lt hnlt hne
        · exact hfirst p hp

theorem Ordered.assign (h : s.Ordered) (name value : Text) : (s.assign name value).Ordered :=
  pairwise_assignIn h

theorem Ordered.nodup (h : s.Ordered) : (s.properties.map Prod.fst).Nodup := by
  rw [List.Nodup, List.pairwise_map]
  refine h.imp fun {p q} hlt heq => ?_
  rw [heq] at hlt
  exact List.lt_irrefl q.1 hlt

theorem Ordered.properties_ext (h : s.Ordered) (h' : s'.Ordered)
    (hget : ∀ name, s.get? name = s'.get? name) : s.properties = s'.properties := by
  have hperm : s.properties.Perm s'.properties := by
    refine (List.perm_ext_iff_of_nodup h.nodup.of_map h'.nodup.of_map).2 fun p => ?_
    rw [← Table.get?_eq_some_iff_mem h.nodup, ← Table.get?_eq_some_iff_mem h'.nodup, ← get?_eq,
      ← get?_eq, hget]
  exact List.Perm.eq_of_pairwise (fun _ _ _ _ hlt hgt => absurd hgt (List.lt_asymm hlt)) h h' hperm

/-- A state in order is the only one with its block, its values and its order. -/
theorem eq_iff_of_ordered (h' : s'.Ordered) :
    s = s' ↔ s.block = s'.block ∧ s.Ordered ∧ ∀ name, s.get? name = s'.get? name := by
  constructor
  · rintro rfl
    exact ⟨rfl, h', fun _ => rfl⟩
  · rintro ⟨hblock, h, hget⟩
    have hproperties := h.properties_ext h' hget
    cases s
    cases s'
    cases hblock
    cases hproperties
    rfl

def assignAll (s : BlockState) (ps : List (Text × Text)) : BlockState :=
  ps.foldl (fun s p => s.assign p.1 p.2) s

theorem Ordered.assignAll (h : s.Ordered) (ps : List (Text × Text)) : (s.assignAll ps).Ordered := by
  induction ps generalizing s with
  | nil => exact h
  | cons p rest ih => exact ih (h.assign p.1 p.2)

theorem block_assignAll (s : BlockState) (ps : List (Text × Text)) :
    (s.assignAll ps).block = s.block := by
  induction ps generalizing s with
  | nil => rfl
  | cons p rest ih => exact ih (s.assign p.1 p.2)

theorem get?_assignAll (s : BlockState) (ps : List (Text × Text)) (name : Text) :
    (s.assignAll ps).get? name = (Table.get? ps.reverse name).or (s.get? name) := by
  induction ps generalizing s with
  | nil => rfl
  | cons p rest ih =>
    change ((s.assign p.1 p.2).assignAll rest).get? name = _
    rw [ih, get?_assign, List.reverse_cons, Table.get?_append, Option.or_assoc]
    by_cases h : p.1 = name <;> simp [Table.get?, h]

variable (block : Text) (ps : List (Text × Text))

theorem ordered_of : (of block ps).Ordered :=
  Ordered.assignAll (s := ⟨ResourceName.normalise block, []⟩) .nil ps

theorem block_of : (of block ps).block = ResourceName.normalise block :=
  block_assignAll _ ps

theorem get?_of (name : Text) : (of block ps).get? name = Table.get? ps.reverse name :=
  (get?_assignAll _ ps name).trans (Option.or_none ..)

/-- The properties are in order, and the block is in its normal form. -/
structure Canonical (s : BlockState) : Prop where
  ordered : s.Ordered
  normal : ResourceName.normalise s.block = s.block

theorem canonical_of : (of block ps).Canonical where
  ordered := ordered_of block ps
  normal := by rw [block_of, ResourceName.normalise_normalise]

namespace Canonical

theorem assign (h : s.Canonical) (name value : Text) : (s.assign name value).Canonical :=
  ⟨h.ordered.assign name value, h.normal⟩

theorem eq_iff (h : s.Canonical) (h' : s'.Canonical) :
    s = s' ↔ s.block = s'.block ∧ ∀ name, s.get? name = s'.get? name := by
  rw [eq_iff_of_ordered h'.ordered, and_iff_right h.ordered]

theorem assign_comm (h : s.Canonical) {name name' : Text} (hne : name ≠ name')
    (value value' : Text) : (s.assign name value).assign name' value' =
      (s.assign name' value').assign name value := by
  refine (((h.assign _ _).assign _ _).eq_iff ((h.assign _ _).assign _ _)).2 ⟨rfl, fun other => ?_⟩
  simp only [get?_assign]
  by_cases hother : name = other
  · subst hother
    rw [if_neg hne.symm, if_pos rfl, if_pos rfl]
  · rw [if_neg hother, if_neg hother]

theorem assign_assign (h : s.Canonical) (name value value' : Text) :
    (s.assign name value).assign name value' = s.assign name value' := by
  refine (((h.assign _ _).assign _ _).eq_iff (h.assign _ _)).2 ⟨rfl, fun other => ?_⟩
  simp only [get?_assign]
  split <;> rfl

/-- To assign a value is to make the state anew with one value more. -/
theorem assign_eq_of (h : s.Canonical) (name value : Text) :
    s.assign name value = of s.block (s.properties ++ [(name, value)]) := by
  refine ((h.assign _ _).eq_iff (canonical_of _ _)).2 ⟨?_, fun other => ?_⟩
  · rw [block_of, h.normal]
    rfl
  · have hkeys : (s.properties.reverse.map Prod.fst).Nodup := by
      rw [List.map_reverse]
      exact List.nodup_reverse.2 h.ordered.nodup
    rw [get?_assign, get?_of, List.reverse_append, get?_eq,
      ← Table.get?_perm (List.reverse_perm s.properties) hkeys]
    rfl

end Canonical

/-- The states that there are: of a block with values, and with values assigned to such a state. -/
inductive Made : BlockState → Prop
  | of (block : Text) (ps : List (Text × Text)) : Made (.of block ps)
  | assign {s : BlockState} (h : Made s) (name value : Text) : Made (s.assign name value)

theorem Made.canonical (h : Made s) : s.Canonical := by
  induction h with
  | of block ps => exact canonical_of block ps
  | assign _ name value ih => exact ih.assign name value

/-- How values are assigned to a state and found in it, and when it is another one. -/
structure Lawful (s : BlockState) : Prop where
  increasing : s.properties.Pairwise fun p q => p.1 < q.1
  normal : ResourceName.normalise s.block = s.block
  get?_assign : ∀ name value other,
    (s.assign name value).get? other = if other = name then some value else s.get? other
  assign_comm : ∀ name value name' value', name ≠ name' →
    (s.assign name value).assign name' value' = (s.assign name' value').assign name value
  assign_assign : ∀ name value value',
    (s.assign name value).assign name value' = s.assign name value'
  /-- Of many values the last one for a name counts, whatever is assigned in between. -/
  get?_assignAll : ∀ ps name,
    (s.assignAll ps).get? name = (Table.get? ps.reverse name).or (s.get? name)
  assign_eq_of : ∀ name value,
    s.assign name value = .of s.block (s.properties ++ [(name, value)])
  eq_iff : ∀ s', Made s' →
    (s = s' ↔ s.block = s'.block ∧ ∀ name, s.get? name = s'.get? name)

/-- A state is canonical however it was made, and so known from its block and its values. -/
theorem lawful_of_made (h : Made s) : s.Lawful where
  increasing := h.canonical.ordered
  normal := h.canonical.normal
  get?_assign name value other := by
    rw [get?_assign]
    exact if_congr eq_comm rfl rfl
  assign_comm name value name' value' hne := h.canonical.assign_comm hne value value'
  assign_assign := h.canonical.assign_assign
  get?_assignAll := s.get?_assignAll
  assign_eq_of := h.canonical.assign_eq_of
  eq_iff s' h' := h.canonical.eq_iff h'.canonical

/-- A furnace with two values, of which one is overwritten. -/
theorem lawful_turnedFurnace :
    Made ((of " furnace" [("lit", "true"), ("facing", "north")]).assign "facing" "east") ∧
      Lawful ((of " furnace" [("lit", "true"), ("facing", "north")]).assign "facing" "east") :=
  have h : Made ((of " furnace" [("lit", "true"), ("facing", "north")]).assign "facing" "east") :=
    .assign (.of _ _) _ _
  ⟨h, lawful_of_made h⟩

end BlockState

namespace Registry

variable {r : Registry} {block : Text} {s : BlockState}

/-- No block has a property twice. -/
def Regular (r : Registry) : Prop :=
  ∀ block, ((r.blockProperties block).map Prod.fst).Nodup

theorem regular_build {items : List Text} {blocks : List (Text × Table Text (List Text))}
    {biomeTypes : List (Text × List Text)} (h : ∀ b ∈ blocks, (b.2.map Prod.fst).Nodup) :
    (build items blocks biomeTypes).Regular := by
  intro block
  unfold blockProperties
  cases hget : (build items blocks biomeTypes).blocks.get? (ResourceName.normalise block) with
  | none => exact List.nodup_nil
  | some properties =>
    obtain ⟨b, hb, heq⟩ := List.mem_map.1 (Table.mem_of_get?_ofEntries hget)
    obtain ⟨-, rfl⟩ := Prod.mk.inj heq
    exact h b hb

theorem defaultState?_eq_some_iff : r.defaultState? block = some s ↔
    r.hasBlock block ∧ s = .of block ((r.blockProperties block).filterMap fun p =>
      p.2.head?.map fun v => (p.1, v)) := by
  unfold defaultState? hasBlock blockProperties
  cases r.blocks.get? (ResourceName.normalise block) <;> simp [eq_comm]

theorem block_of_defaultState? (h : r.defaultState? block = some s) :
    s.block = ResourceName.normalise block := by
  obtain ⟨-, rfl⟩ := defaultState?_eq_some_iff.1 h
  exact BlockState.block_of _ _

theorem ordered_of_defaultState? (h : r.defaultState? block = some s) : s.Ordered := by
  obtain ⟨-, rfl⟩ := defaultState?_eq_some_iff.1 h
  exact BlockState.ordered_of _ _

theorem get?_of_defaultState? (hr : r.Regular) (h : r.defaultState? block = some s) (name : Text) :
    s.get? name = ((r.blockProperties block).get? name).bind List.head? := by
  obtain ⟨-, rfl⟩ := defaultState?_eq_some_iff.1 h
  have hkeys : ((r.blockProperties block).reverse.map Prod.fst).Nodup := by
    rw [List.map_reverse]
    exact List.nodup_reverse.2 (hr block)
  rw [BlockState.get?_of, ← List.filterMap_reverse, Table.get?_filterMap hkeys,
    Table.get?_perm (List.reverse_perm _) hkeys]

end Registry
end RuleGate
