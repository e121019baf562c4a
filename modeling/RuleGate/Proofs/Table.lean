import Mathlib.Data.List.Induction
import Mathlib.Data.List.Nodup
import Mathlib.Data.Set.Function
import RuleGate.Table

/-!
# Lookups in tables

What is found in a table after its keys or values have been changed, and where something that is
found stands: it is an entry of the table, and in a table written entry by entry it is one of those.
Of the entries whose keys become one it is the last (`Table.get?_ofEntries_mapKeys_iff`).
-/

namespace RuleGate

namespace Table

variable {κ α : Type} [DecidableEq κ]

def mapKeys (f : κ → κ) (t : Table κ α) : Table κ α :=
  t.map fun entry => (f entry.1, entry.2)

theorem get?_mapKeys_of_apart {f : κ → κ} {t : Table κ α} {key : κ}
    (h : ∀ e ∈ t, f e.1 = f key → e.1 = key) : get? (mapKeys f t) (f key) = get? t key := by
  induction t with
  | nil => rfl
  | cons entry rest ih =>
    obtain ⟨hentry, hrest⟩ := List.forall_mem_cons.1 h
    change (if f entry.1 = f key then some entry.2 else get? (mapKeys f rest) (f key)) =
      if entry.1 = key then some entry.2 else get? rest key
    rw [ih hrest]
    exact if_congr ⟨hentry, congrArg f⟩ rfl rfl

theorem get?_mapKeys {f : κ → κ} (hf : Function.Injective f) (t : Table κ α) (key : κ) :
    get? (mapKeys f t) (f key) = get? t key :=
  get?_mapKeys_of_apart fun _ _ heq => hf heq

def mapEntries {β : Type} (f : κ → α → β) (t : Table κ α) : Table κ β :=
  t.map fun entry => (entry.1, f entry.1 entry.2)

theorem get?_mapEntries {β : Type} (f : κ → α → β) (t : Table κ α) (key : κ) :
    get? (mapEntries f t) key = (get? t key).map (f key) := by
  induction t with
  | nil => rfl
  | cons entry rest ih =>
    change (if entry.1 = key then some (f entry.1 entry.2) else get? (mapEntries f rest) key) =
      (if entry.1 = key then some entry.2 else get? rest key).map (f key)
    rw [ih]
    split
    case isTrue heq => rw [heq, Option.map_some]
    case isFalse => rfl

def mapValues {β : Type} (f : α → β) (t : Table κ α) : Table κ β :=
  t.map fun entry => (entry.1, f entry.2)

theorem get?_mapValues {β : Type} (f : α → β) (t : Table κ α) (key : κ) :
    get? (mapValues f t) key = (get? t key).map f :=
  get?_mapEntries (fun _ => f) t key

theorem mem_of_get? {t : Table κ α} {key : κ} {value : α} (h : t.get? key = some value) :
    (key, value) ∈ t := by
  induction t with
  | nil => cases h
  | cons entry rest ih =>
    obtain ⟨k, v⟩ := entry
    rw [get?] at h
    split at h
    · obtain rfl := Option.some.inj h
      simp_all
    · exact List.mem_cons_of_mem _ (ih h)

theorem get?_filter (p : κ → Bool) (t : Table κ α) (key : κ) :
    get? (t.filter fun entry => p entry.1) key = if p key then get? t key else none := by
  induction t with
  | nil => simp
  | cons entry rest ih =>
    obtain ⟨k, v⟩ := entry
    rw [List.filter_cons, get?]
    by_cases hk : k = key
    · subst hk
      by_cases hp : p k <;> simp [hp, get?, ih]
    · by_cases hp : p k <;> simp [hp, hk, get?, ih]

theorem get?_foldl_insert {entries : List (κ × α)} {t : Table κ α} {key : κ} {value : α}
    (h : get? (entries.foldl (fun t entry => insert t entry.1 entry.2) t) key = some value) :
    t.get? key = some value ∨ (key, value) ∈ entries := by
  induction entries generalizing t with
  | nil => exact .inl h
  | cons entry rest ih =>
    rcases ih h with hinsert | hrest
    · rw [get?_insert] at hinsert
      split at hinsert
      case isTrue heq =>
        obtain rfl := Option.some.inj hinsert
        exact .inr (heq ▸ List.mem_cons_self)
      case isFalse => exact .inl hinsert
    · exact .inr (List.mem_cons_of_mem _ hrest)

theorem mem_of_get?_ofEntries {entries : List (κ × α)} {key : κ} {value : α}
    (h : (ofEntries entries).get? key = some value) : (key, value) ∈ entries :=
  (get?_foldl_insert h).resolve_left (by simp)

theorem isSome_get?_iff {t : Table κ α} {key : κ} :
    (t.get? key).isSome ↔ ∃ e ∈ t, e.1 = key := by
  induction t with
  | nil => simp
  | cons entry rest ih =>
    rw [List.exists_mem_cons_iff, ← ih, get?]
    split <;> simp_all

theorem isSome_get?_foldl_insert {entries : List (κ × α)} {t : Table κ α} {key : κ} :
    (get? (entries.foldl (fun t entry => insert t entry.1 entry.2) t) key).isSome ↔
      (t.get? key).isSome ∨ ∃ e ∈ entries, e.1 = key := by
  induction entries generalizing t with
  | nil => simp
  | cons entry rest ih =>
    rw [List.foldl_cons, ih, get?_insert, List.exists_mem_cons_iff, or_left_comm]
    split <;> simp_all

/-- Different keys of a table have different images. -/
def Apart (f : κ → κ) (t : Table κ α) : Prop :=
  ∀ e ∈ t, ∀ e' ∈ t, f e.1 = f e'.1 → e.1 = e'.1

theorem get?_mapKeys_eq_some_iff {f : κ → κ} {t : Table κ α} (h : Apart f t) {image : κ}
    {value : α} :
    (mapKeys f t).get? image = some value ↔ ∃ key, f key = image ∧ t.get? key = some value := by
  constructor
  · intro hget
    obtain ⟨e, he, heq⟩ := List.mem_map.1 (mem_of_get? hget)
    obtain ⟨rfl, rfl⟩ := Prod.mk.inj heq
    exact ⟨e.1, rfl, get?_mapKeys_of_apart (fun e' he' => h e' he' e he) ▸ hget⟩
  · rintro ⟨key, rfl, hget⟩
    rw [get?_mapKeys_of_apart fun e he => h e he _ (mem_of_get? hget), hget]

theorem insert_mapKeys {f : κ → κ} {t : Table κ α} {key : κ}
    (h : ∀ e ∈ t, f e.1 = f key → e.1 = key) (value : α) :
    insert (mapKeys f t) (f key) value = mapKeys f (insert t key value) := by
  induction t with
  | nil => rfl
  | cons entry rest ih =>
    obtain ⟨hentry, hrest⟩ := List.forall_mem_cons.1 h
    change (if f entry.1 = f key then (f entry.1, value) :: mapKeys f rest
      else (f entry.1, entry.2) :: insert (mapKeys f rest) (f key) value) =
      mapKeys f (if entry.1 = key then (entry.1, value) :: rest
        else (entry.1, entry.2) :: insert rest key value)
    rw [ih hrest]
    by_cases heq : entry.1 = key
    · rw [if_pos heq, if_pos (congrArg f heq)]
      rfl
    · rw [if_neg heq, if_neg fun hf => heq (hentry hf)]
      rfl

theorem foldl_insert_mapKeys {f : κ → κ} {keys : Set κ} (hf : Set.InjOn f keys)
    {entries : List (κ × α)} (hentries : ∀ e ∈ entries, e.1 ∈ keys) {t : Table κ α}
    (ht : ∀ e ∈ t, e.1 ∈ keys) :
    (mapKeys f entries).foldl (fun t entry => insert t entry.1 entry.2) (mapKeys f t) =
      mapKeys f (entries.foldl (fun t entry => insert t entry.1 entry.2) t) := by
  induction entries generalizing t with
  | nil => rfl
  | cons entry rest ih =>
    obtain ⟨hentry, hrest⟩ := List.forall_mem_cons.1 hentries
    have hstep : insert (mapKeys f t) (f entry.1) entry.2 = mapKeys f (insert t entry.1 entry.2) :=
      insert_mapKeys (fun e he heq => hf (ht e he) hentry heq) entry.2
    have hkeys : ∀ e ∈ insert t entry.1 entry.2, e.1 ∈ keys := by
      intro e he
      have hsome : ((insert t entry.1 entry.2).get? e.1).isSome :=
        isSome_get?_iff.2 ⟨e, he, rfl⟩
      rw [get?_insert] at hsome
      split at hsome
      case isTrue heq => exact heq ▸ hentry
      case isFalse =>
        obtain ⟨e', he', heq⟩ := isSome_get?_iff.1 hsome
        exact heq ▸ ht e' he'
    change List.foldl _ (insert (mapKeys f t) (f entry.1) entry.2) (mapKeys f rest) = _
    rw [hstep]
    exact ih hrest hkeys

/-- Keys that stay apart may be changed before a table is written or after. -/
theorem ofEntries_mapKeys {f : κ → κ} {entries : List (κ × α)} (h : Apart f (ofEntries entries)) :
    ofEntries (mapKeys f entries) = mapKeys f (ofEntries entries) := by
  have hf : Set.InjOn f {k | ∃ e ∈ ofEntries entries, e.1 = k} := by
    rintro _ ⟨e, he, rfl⟩ _ ⟨e', he', rfl⟩ heq
    exact h e he e' he' heq
  have hentries : ∀ e ∈ entries, e.1 ∈ {k | ∃ e ∈ ofEntries entries, e.1 = k} := fun e he =>
    isSome_get?_iff.1 (isSome_get?_foldl_insert.2 (.inr ⟨e, he, rfl⟩))
  exact foldl_insert_mapKeys (t := []) hf hentries fun e he => absurd he List.not_mem_nil

/-- An entry whose key has the same image as this one, as no later entry has. -/
def LastUnder (f : κ → κ) (t : Table κ α) (key : κ) (value : α) : Prop :=
  ∃ earlier k later, t = earlier ++ (k, value) :: later ∧ f k = f key ∧ ∀ e ∈ later, f e.1 ≠ f key

theorem lastUnder_concat_iff {f : κ → κ} {t : Table κ α} {e : κ × α} {key : κ} {value : α} :
    LastUnder f (t ++ [e]) key value ↔
      if f e.1 = f key then e.2 = value else LastUnder f t key value := by
  constructor
  · rintro ⟨earlier, k, later, heq, hk, hlater⟩
    -- the entry is the new one, or the new one is among the later ones
    rcases List.eq_nil_or_concat' later with rfl | ⟨later, e', rfl⟩
    · obtain ⟨-, hlast⟩ := List.append_inj' heq rfl
      obtain rfl := List.singleton_inj.1 hlast
      rw [if_pos hk]
    · rw [← List.cons_append, ← List.append_assoc] at heq
      obtain ⟨rfl, hlast⟩ := List.append_inj' heq rfl
      obtain rfl := List.singleton_inj.1 hlast
      rw [if_neg (hlater e (List.mem_append_right _ List.mem_cons_self))]
      exact ⟨earlier, k, later, rfl, hk, fun e he => hlater e (List.mem_append_left _ he)⟩
  · intro h
    split at h
    case isTrue he =>
      obtain rfl := h
      exact ⟨t, e.1, [], rfl, he, fun _ hmem => absurd hmem List.not_mem_nil⟩
    case isFalse he =>
      obtain ⟨earlier, k, later, rfl, hk, hlater⟩ := h
      refine ⟨earlier, k, later ++ [e], by simp, hk, fun e' he' => ?_⟩
      rcases List.mem_append.1 he' with he' | he'
      · exact hlater e' he'
      · obtain rfl := List.mem_singleton.1 he'
        exact he

theorem get?_ofEntries_mapKeys_iff {f : κ → κ} {t : Table κ α} {key : κ} {value : α} :
    (ofEntries (mapKeys f t)).get? (f key) = some value ↔ LastUnder f t key value := by
  induction t using List.reverseRecOn with
  | nil =>
    refine iff_of_false (by simp [mapKeys, ofEntries]) ?_
    rintro ⟨earlier, k, later, heq, -⟩
    exact List.append_ne_nil_of_right_ne_nil _ (List.cons_ne_nil _ _) heq.symm
  | append_singleton t e ih =>
    have hstep : ofEntries (mapKeys f (t ++ [e])) =
        insert (ofEntries (mapKeys f t)) (f e.1) e.2 := by
      rw [mapKeys, List.map_append, ofEntries, List.foldl_append]
      rfl
    rw [hstep, get?_insert, lastUnder_concat_iff, ← ih]
    split
    · exact Option.some_inj
    · exact Iff.rfl

theorem insert_mapValues {β : Type} (f : α → β) (t : Table κ α) (key : κ) (value : α) :
    insert (mapValues f t) key (f value) = mapValues f (insert t key value) := by
  induction t with
  | nil => rfl
  | cons entry rest ih =>
    change (if entry.1 = key then (entry.1, f value) :: mapValues f rest
      else (entry.1, f entry.2) :: insert (mapValues f rest) key (f value)) =
      mapValues f (if entry.1 = key then (entry.1, value) :: rest
        else (entry.1, entry.2) :: insert rest key value)
    rw [ih]
    split <;> rfl

theorem ofEntries_mapValues {β : Type} (f : α → β) (entries : List (κ × α)) :
    ofEntries (mapValues f entries) = mapValues f (ofEntries entries) := by
  have hfold (t : Table κ α) :
      (mapValues f entries).foldl (fun t entry => insert t entry.1 entry.2) (mapValues f t) =
        mapValues f (entries.foldl (fun t entry => insert t entry.1 entry.2) t) := by
    induction entries generalizing t with
    | nil => rfl
    | cons entry rest ih =>
      change List.foldl _ (insert (mapValues f t) entry.1 (f entry.2)) (mapValues f rest) = _
      rw [insert_mapValues]
      exact ih _
  exact hfold []

theorem get?_append (t u : Table κ α) (key : κ) :
    get? (t ++ u) key = (get? t key).or (get? u key) := by
  induction t with
  | nil => rfl
  | cons entry rest ih =>
    obtain ⟨k, v⟩ := entry
    rw [List.cons_append, get?, get?]
    split
    · rfl
    · exact ih

theorem get?_eq_some_iff_mem {t : Table κ α} (hkeys : (t.map Prod.fst).Nodup) {key : κ}
    {value : α} : t.get? key = some value ↔ (key, value) ∈ t := by
  refine ⟨mem_of_get?, fun hmem => ?_⟩
  induction t with
  | nil => cases hmem
  | cons entry rest ih =>
    obtain ⟨k, v⟩ := entry
    rw [List.map_cons, List.nodup_cons] at hkeys
    obtain ⟨hnot, hrest⟩ := hkeys
    rw [get?]
    rcases List.mem_cons.1 hmem with heq | hmem
    · obtain ⟨rfl, rfl⟩ := Prod.mk.inj heq
      exact if_pos rfl
    · have hne : k ≠ key := fun heq => hnot (List.mem_map.2 ⟨_, hmem, heq.symm⟩)
      rw [if_neg hne]
      exact ih hrest hmem

theorem get?_perm {t u : Table κ α} (h : t.Perm u) (hkeys : (t.map Prod.fst).Nodup) (key : κ) :
    t.get? key = u.get? key := by
  have hkeys' : (u.map Prod.fst).Nodup := (h.map Prod.fst).nodup_iff.1 hkeys
  refine Option.ext fun value => ?_
  rw [get?_eq_some_iff_mem hkeys, get?_eq_some_iff_mem hkeys', h.mem_iff]

theorem mem_insert {t : Table κ α} {key : κ} {value : α} {e : κ × α} (h : e ∈ insert t key value) :
    e = (key, value) ∨ e ∈ t := by
  induction t with
  | nil => exact .inl (List.mem_singleton.1 h)
  | cons entry rest ih =>
    rw [insert] at h
    split at h
    case isTrue heq =>
      rcases List.mem_cons.1 h with rfl | h
      · exact .inl (heq ▸ rfl)
      · exact .inr (List.mem_cons_of_mem _ h)
    case isFalse =>
      rcases List.mem_cons.1 h with rfl | h
      · exact .inr List.mem_cons_self
      · exact (ih h).imp_right (List.mem_cons_of_mem _)

theorem nodup_insert {t : Table κ α} (hkeys : (t.map Prod.fst).Nodup) (key : κ) (value : α) :
    ((insert t key value).map Prod.fst).Nodup := by
  induction t with
  | nil => exact List.nodup_singleton key
  | cons entry rest ih =>
    rw [List.map_cons, List.nodup_cons] at hkeys
    obtain ⟨hnot, hrest⟩ := hkeys
    rw [insert]
    split
    case isTrue => exact List.nodup_cons.2 ⟨hnot, hrest⟩
    case isFalse hne =>
      refine List.nodup_cons.2 ⟨fun hmem => ?_, ih hrest⟩
      obtain ⟨e, he, heq⟩ := List.mem_map.1 hmem
      rcases mem_insert he with rfl | he
      · exact hne heq.symm
      · exact hnot (List.mem_map.2 ⟨e, he, heq⟩)

theorem nodup_ofEntries (entries : List (κ × α)) : ((ofEntries entries).map Prod.fst).Nodup := by
  unfold ofEntries
  induction entries using List.reverseRecOn with
  | nil => exact List.nodup_nil
  | append_singleton rest entry ih =>
    rw [List.foldl_append]
    exact nodup_insert ih entry.1 entry.2

theorem get?_eq_none_of_notMem {t : Table κ α} {key : κ} (h : key ∉ t.map Prod.fst) :
    t.get? key = none := by
  rw [Option.eq_none_iff_forall_ne_some]
  intro value hget
  exact h (List.mem_map.2 ⟨_, mem_of_get? hget, rfl⟩)

/-- Changing values, and leaving out some of them, does not bring up others. -/
theorem get?_filterMap {β : Type} {t : Table κ α} (hkeys : (t.map Prod.fst).Nodup)
    (f : α → Option β) (key : κ) :
    get? (t.filterMap fun entry => (f entry.2).map fun value => (entry.1, value)) key =
      (t.get? key).bind f := by
  induction t with
  | nil => rfl
  | cons entry rest ih =>
    obtain ⟨k, v⟩ := entry
    rw [List.map_cons, List.nodup_cons] at hkeys
    obtain ⟨hnot, hrest⟩ := hkeys
    rw [List.filterMap_cons, get?]
    by_cases hk : k = key
    · subst hk
      cases hf : f v with
      | none => simp [hf, ih hrest, get?_eq_none_of_notMem hnot]
      | some value => simp [hf, get?]
    · cases hf : f v with
      | none => simp [hk, ih hrest]
      | some value => simp [hk, get?, ih hrest]

end Table

end RuleGate
