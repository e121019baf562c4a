import Mathlib.Data.List.AList
import RuleGate.Proofs.Rule.Fields

/-!
# Attributes as a table

Attributes are what a table holds that has one entry for each key with values and appends to it one
value at a time (`AttributeTable.Represents`). The table has no empty entry, and no addition gives
it one, so a key has an entry exactly if it has a value. What a JSON object puts into it is known
from its fields: all values under a name, or none and one error for the first that does not fit
(`RuleAttributes.ofFields_collects`).
-/

namespace RuleGate

namespace Key

theorem mem_all (k : Key) : k ∈ all := by
  cases k <;> decide

theorem nodup_all : all.Nodup := by decide

theorem nodup_names : (all.map name).Nodup := by decide +kernel

theorem name_injective : Function.Injective name :=
  fun k k' h => List.inj_on_of_nodup_map nodup_names (mem_all k) (mem_all k') h

theorem ofName?_eq_some_iff {s : Text} {k : Key} :
    ofName? s = some k ↔ Text.lower (Text.strip s) = k.name := by
  change all.find? (fun k => k.name = Text.lower (Text.strip s)) = some k ↔ _
  constructor
  · intro h
    have hname := List.find?_some h
    exact (of_decide_eq_true hname).symm
  · intro h
    have hsome : (all.find? fun k => k.name = Text.lower (Text.strip s)).isSome :=
      List.find?_isSome.2 ⟨k, mem_all k, decide_eq_true h.symm⟩
    obtain ⟨k', hk'⟩ := Option.isSome_iff_exists.1 hsome
    have hname := List.find?_some hk'
    rw [hk', name_injective ((of_decide_eq_true hname).trans h)]

end Key

/-- The values of each key that has an entry. -/
abbrev AttributeTable (V : Key → Type) := AList fun k => List (V k)

namespace AttributeTable

variable {V : Key → Type} {t : AttributeTable V} {a : Attributes V}

/-- Appends to the entry of a key, which is made if there is none. -/
def add (t : AttributeTable V) (k : Key) (v : V k) : AttributeTable V :=
  t.insert k ((t.lookup k).getD [] ++ [v])

def addEach (t : AttributeTable V) (added : List (Σ k, V k)) : AttributeTable V :=
  added.foldl (fun t p => t.add p.1 p.2) t

/-- The same values are stored, and no entry is empty. -/
structure Stores (t : AttributeTable V) (a : Attributes V) : Prop where
  getList_eq : ∀ k, a.getList k = (t.lookup k).getD []
  ne_nil : ∀ k vs, t.lookup k = some vs → vs ≠ []

theorem stores_empty : Stores (∅ : AttributeTable V) .empty where
  getList_eq k := by
    rw [AList.lookup_empty]
    rfl
  ne_nil k vs h := by
    rw [AList.lookup_empty] at h
    cases h

theorem Stores.add (h : Stores t a) (k : Key) (v : V k) : Stores (t.add k v) (a.add k v) where
  getList_eq k' := by
    rw [Attributes.getList_add, AttributeTable.add]
    by_cases hk : k = k'
    · subst hk
      rw [AList.lookup_insert, dif_pos rfl, h.getList_eq]
      rfl
    · rw [AList.lookup_insert_ne (Ne.symm hk), dif_neg hk, h.getList_eq]
  ne_nil k' vs hvs := by
    rw [AttributeTable.add] at hvs
    by_cases hk : k' = k
    · subst hk
      rw [AList.lookup_insert] at hvs
      obtain rfl := Option.some.inj hvs
      exact List.append_ne_nil_of_right_ne_nil _ (List.cons_ne_nil v [])
    · rw [AList.lookup_insert_ne hk] at hvs
      exact h.ne_nil k' vs hvs

theorem Stores.addEach (h : Stores t a) (added : List (Σ k, V k)) :
    Stores (t.addEach added) (added.foldl (fun a p => a.add p.1 p.2) a) := by
  induction added generalizing t a with
  | nil => exact h
  | cons p rest ih => exact ih (h.add p.1 p.2)

/-- A table with one entry for each key that has values answers every question about them. -/
structure Represents (t : AttributeTable V) (a : Attributes V) : Prop where
  getList_eq : ∀ k, a.getList k = (t.lookup k).getD []
  has_iff_mem : ∀ k, a.has k ↔ k ∈ t
  has_iff_ne_nil : ∀ k, a.has k ↔ a.getList k ≠ []
  get?_of_has : ∀ k, a.has k → ∃ v rest, a.getList k = v :: rest ∧ a.get? k = some v
  size_eq : a.size = t.keys.length

theorem Stores.has_iff_mem (h : Stores t a) (k : Key) : a.has k ↔ k ∈ t := by
  rw [Attributes.has_eq_true_iff, h.getList_eq, ← AList.lookup_isSome]
  cases hvs : t.lookup k with
  | none => simp
  | some vs => simpa using h.ne_nil k vs hvs

theorem Stores.represents (h : Stores t a) : Represents t a where
  getList_eq := h.getList_eq
  has_iff_mem := h.has_iff_mem
  has_iff_ne_nil k := Attributes.has_eq_true_iff
  get?_of_has k hk := by
    obtain ⟨v, rest, hvs⟩ := List.exists_cons_of_ne_nil (Attributes.has_eq_true_iff.1 hk)
    exact ⟨v, rest, hvs, congrArg List.head? hvs⟩
  size_eq := by
    refine List.Perm.length_eq ((List.perm_ext_iff_of_nodup (Key.nodup_all.filter _)
      t.keys_nodup).2 fun k => ?_)
    rw [List.mem_filter, and_iff_right k.mem_all, h.has_iff_mem, AList.mem_keys]

end AttributeTable

namespace RuleAttributes

open Schema (Complaint Checked)

/-- The values of all entries, if every one of them fits the key. -/
def fitting? (k : Key) (entries : List Json) : Option (List k.Value) :=
  entries.mapM fun v => (k.type.shape v).value?

/-- What is wrong with the first entry that does not fit the key. -/
def firstComplaint? (k : Key) (entries : List Json) : Option Complaint :=
  entries.findSome? fun v =>
    match k.type.shape v with
    | .valid _ => none
    | .invalid p _ => some p.complaint

/-- The report about one name: at most one error. -/
def complaintOf? (field : Text × Json) : Option Diagnostic :=
  (Key.ofName? field.1).bind fun k =>
    (firstComplaint? k (itemsOf field.2)).map (Diagnostic.badValue k)

theorem fitting?_cons (k : Key) (v : Json) (rest : List Json) :
    fitting? k (v :: rest) =
      (k.type.shape v).value?.bind fun x => (fitting? k rest).map (x :: ·) := by
  rw [fitting?, List.mapM_cons, ← fitting?]
  cases (k.type.shape v).value? with
  | none => rfl
  | some x => cases fitting? k rest <;> rfl

theorem readAll_eq (k : Key) (entries : List Json) :
    (∃ xs, fitting? k entries = some xs ∧ firstComplaint? k entries = none ∧
      readAll k entries = .ok xs) ∨
    ∃ complaint, fitting? k entries = none ∧ firstComplaint? k entries = some complaint ∧
      readAll k entries = .error complaint := by
  induction entries with
  | nil => exact .inl ⟨[], rfl, rfl, rfl⟩
  | cons v rest ih =>
    rw [fitting?_cons, firstComplaint?, readAll, List.findSome?_cons]
    cases k.type.shape v with
    | invalid p ps => exact .inr ⟨p.complaint, rfl, rfl, rfl⟩
    | valid x =>
      rcases ih with ⟨xs, hfit, hnone, hread⟩ | ⟨complaint, hfit, hsome, hread⟩
      · rw [hfit, hread]
        exact .inl ⟨x :: xs, rfl, hnone, rfl⟩
      · rw [hfit, hread]
        exact .inr ⟨complaint, rfl, hsome, rfl⟩

theorem valuesOf_eq (k : Key) (entries : List Json) :
    valuesOf k entries = (fitting? k entries).getD [] := by
  rw [valuesOf]
  rcases readAll_eq k entries with ⟨xs, hfit, -, hread⟩ | ⟨complaint, hfit, -, hread⟩
  · rw [hread, hfit]
    rfl
  · rw [hread, hfit]
    rfl

theorem given_eq (k : Key) (field : Text × Json) : given k field =
    if Text.lower (Text.strip field.1) = k.name then (fitting? k (itemsOf field.2)).getD []
    else [] := by
  simp only [given, Key.ofName?_eq_some_iff, valuesOf_eq]

theorem flatMap_given (fields : Fields) (k : Key) : fields.flatMap (given k) =
    (fields.filter fun field => Text.lower (Text.strip field.1) = k.name).flatMap fun field =>
      (fitting? k (itemsOf field.2)).getD [] := by
  induction fields with
  | nil => rfl
  | cons field rest ih =>
    rw [List.flatMap_cons, given_eq, ih, List.filter_cons]
    by_cases hname : Text.lower (Text.strip field.1) = k.name
    · simp [hname]
    · simp [hname]

theorem snd_addNamed (a : RuleAttributes) (name : Text) (v : Json) :
    (addNamed a name v).2 = (complaintOf? (name, v)).toList := by
  rw [addNamed, complaintOf?]
  cases Key.ofName? name with
  | none => rfl
  | some k =>
    rw [Option.bind_some]
    rcases readAll_eq k (itemsOf v) with ⟨xs, -, hnone, hread⟩ | ⟨complaint, -, hsome, hread⟩
    · rw [hnone]
      simp [hread]
    · rw [hsome]
      simp [hread]

theorem snd_addFields (a : RuleAttributes) (fields : Fields) :
    (addFields a fields).2 = fields.filterMap complaintOf? := by
  induction fields generalizing a with
  | nil => rfl
  | cons field rest ih =>
    obtain ⟨name, v⟩ := field
    change (addNamed a name v).2 ++ (addFields (addNamed a name v).1 rest).2 = _
    rw [snd_addNamed, ih, List.filterMap_cons]
    cases complaintOf? (name, v) <;> rfl

/-- The values that a field adds, in their order. -/
def accepted (field : Text × Json) : List (Σ k : Key, k.Value) :=
  match Key.ofName? field.1 with
  | none => []
  | some k => ((fitting? k (itemsOf field.2)).getD []).map (Sigma.mk k)

theorem fst_addNamed (a : RuleAttributes) (name : Text) (v : Json) :
    (addNamed a name v).1 = (accepted (name, v)).foldl (fun a p => a.add p.1 p.2) a := by
  rw [addNamed, accepted]
  cases Key.ofName? name with
  | none => rfl
  | some k =>
    rcases readAll_eq k (itemsOf v) with ⟨xs, hfit, -, hread⟩ | ⟨complaint, hfit, -, hread⟩
    · simp only [hread, hfit, Option.getD_some, List.foldl_map]
      rfl
    · simp only [hread, hfit, Option.getD_none]
      rfl

theorem fst_addFields (a : RuleAttributes) (fields : Fields) :
    (addFields a fields).1 =
      (fields.flatMap accepted).foldl (fun a p => a.add p.1 p.2) a := by
  induction fields generalizing a with
  | nil => rfl
  | cons field rest ih =>
    obtain ⟨name, v⟩ := field
    rw [List.flatMap_cons, List.foldl_append, ← fst_addNamed]
    exact ih (addNamed a name v).1

theorem exists_badValue_of_mem {fields : Fields} {d : Diagnostic}
    (hd : d ∈ (ofFields fields).2) : ∃ k complaint, d = .badValue k complaint := by
  rw [ofFields, snd_addFields] at hd
  obtain ⟨field, -, hfield⟩ := List.mem_filterMap.1 hd
  obtain ⟨k, -, hk⟩ := Option.bind_eq_some_iff.1 hfield
  obtain ⟨complaint, -, rfl⟩ := Option.map_eq_some_iff.1 hk
  exact ⟨k, complaint, rfl⟩

theorem fitting?_eq_none_iff (k : Key) (entries : List Json) :
    fitting? k entries = none ↔ ∃ complaint, firstComplaint? k entries = some complaint := by
  rcases readAll_eq k entries with ⟨xs, hfit, hnone, -⟩ | ⟨complaint, hfit, hsome, -⟩
  · simp [hfit, hnone]
  · simp [hfit, hsome]

/-- A name adds all of its values to its key, or none and one error that is about the first that
does not fit. Whatever is added to the attributes then, they are what a table without empty entries
stores. -/
theorem ofFields_collects (fields : Fields) :
    (∀ s k, Key.ofName? s = some k ↔ Text.lower (Text.strip s) = k.name) ∧
    (∀ k, (ofFields fields).1.getList k =
      (fields.filter fun field => Text.lower (Text.strip field.1) = k.name).flatMap fun field =>
        (fitting? k (itemsOf field.2)).getD []) ∧
    (∀ k entries,
      fitting? k entries = none ↔ ∃ complaint, firstComplaint? k entries = some complaint) ∧
    (ofFields fields).2 = fields.filterMap complaintOf? ∧
    (∀ d ∈ (ofFields fields).2, d.level = .error ∧ ∃ k complaint, d = .badValue k complaint) ∧
    ∀ more : List (Σ k : Key, k.Value),
      let a := more.foldl (fun a p => a.add p.1 p.2) (ofFields fields).1
      (∀ k, a.getList k = (ofFields fields).1.getList k ++ Attributes.addedTo k more) ∧
      (AttributeTable.addEach ∅ (fields.flatMap accepted ++ more)).Represents a := by
  refine ⟨fun s k => Key.ofName?_eq_some_iff, fun k => ?_, fitting?_eq_none_iff,
    snd_addFields .empty fields, fun d hd => ?_, fun more => ⟨fun k => ?_, ?_⟩⟩
  · rw [getList_ofFields, flatMap_given]
  · obtain ⟨k, complaint, rfl⟩ := exists_badValue_of_mem hd
    exact ⟨rfl, k, complaint, rfl⟩
  · exact Attributes.getList_foldl_add _ more k
  · rw [ofFields, fst_addFields, ← List.foldl_append]
    exact (AttributeTable.stores_empty.addEach _).represents

/-- Two spellings of a key: the list with a value that does not fit adds nothing, the other does. -/
example : (ofFields [("MinTime", .arr [.int 1, .null]), (" mintime", .int 7)]).1.getList .minTime =
    [(7 : Int)] := by rfl

end RuleAttributes
end RuleGate
