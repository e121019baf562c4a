/-!
# Tables in order of first insertion

A table is a list of keys with their values. Writing to a key that is there keeps its place and
replaces its value; a new key goes to the end.
-/

namespace RuleGate

abbrev Table (κ α : Type) := List (κ × α)

namespace Table

variable {κ α β : Type} [DecidableEq κ]

def get? : Table κ α → κ → Option α
  | [], _ => none
  | (k, v) :: rest, key => if k = key then some v else get? rest key

def insert : Table κ α → κ → α → Table κ α
  | [], key, value => [(key, value)]
  | (k, v) :: rest, key, value =>
    if k = key then (k, value) :: rest else (k, v) :: insert rest key value

def erase (t : Table κ α) (key : κ) : Table κ α :=
  t.filter fun entry => entry.1 ≠ key

def ofEntries (entries : List (κ × α)) : Table κ α :=
  entries.foldl (fun t entry => insert t entry.1 entry.2) []

@[simp] theorem get?_nil (key : κ) : get? ([] : Table κ α) key = none := rfl

theorem get?_insert (t : Table κ α) (key other : κ) (value : α) :
    get? (insert t key value) other = if key = other then some value else get? t other := by
  induction t with
  | nil => simp [insert, get?]
  | cons entry rest ih =>
    obtain ⟨k, v⟩ := entry
    by_cases hk : k = key
    · subst hk
      by_cases ho : k = other <;> simp [insert, get?, ho]
    · by_cases ho : k = other
      · subst ho
        simp [insert, get?, hk, Ne.symm hk]
      · simp [insert, get?, hk, ho, ih]

theorem get?_erase (t : Table κ α) (key other : κ) :
    get? (erase t key) other = if key = other then none else get? t other := by
  induction t with
  | nil => simp [erase]
  | cons entry rest ih =>
    obtain ⟨k, v⟩ := entry
    simp only [erase, ne_eq, decide_not] at ih ⊢
    by_cases hk : k = key
    · subst hk
      by_cases ho : k = other <;> simp_all [get?]
    · by_cases ho : k = other
      · subst ho
        simp [get?, hk, Ne.symm hk]
      · simp [get?, hk, ho, ih]

end Table
end RuleGate
