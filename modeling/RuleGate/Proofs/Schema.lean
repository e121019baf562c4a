import RuleGate.Proofs.Table
import RuleGate.Schema.Record

/-!
# What valid values are read from

A shape that accepts a value has read every part of its result from a part of that value. `Within`
is being such a part, at any depth. Checks side by side accept when both do
(`Checked.seq_eq_valid_iff`), so what a record holds is known from its fields one by one, and what
stands in a list, a table or an optional field was read from something within
(`Schema.ReadFrom`).
-/

namespace RuleGate

namespace Json

/-- A value is within itself, and within an array or object if it is within what these hold. -/
inductive Within (w : Json) : Json → Prop
  | self : Within w w
  | item {v : Json} {vs : List Json} (hmem : v ∈ vs) (h : Within w v) : Within w (.arr vs)
  | field {name : Text} {v : Json} {fields : Fields} (hmem : (name, v) ∈ fields) (h : Within w v) :
      Within w (.obj fields)

theorem Within.trans {u v w : Json} (huv : Within u v) (hvw : Within v w) : Within u w := by
  induction hvw with
  | self => exact huv
  | item hmem _ ih => exact .item hmem ih
  | field hmem _ ih => exact .field hmem ih

def Finite (v : Json) : Prop :=
  ∀ d, Within (.float d) v → d.isFinite = true

end Json

namespace Schema

open Json (Within)

namespace Checked

variable {α β : Type}

theorem map_eq_valid_iff {f : α → β} {x : Checked α} {b : β} :
    f <$> x = .valid b ↔ ∃ a, x = .valid a ∧ f a = b := by
  cases x <;> simp [Functor.map, map]

theorem seq_eq_valid_iff {f : Checked (α → β)} {x : Checked α} {b : β} :
    f <*> x = .valid b ↔ ∃ g, f = .valid g ∧ ∃ a, x = .valid a ∧ g a = b := by
  cases f <;> cases x <;> simp [Seq.seq, seq]

theorem under_eq_valid_iff {step : Step} {x : Checked α} {a : α} :
    x.under step = .valid a ↔ x = .valid a := by
  cases x <;> simp [under]

end Checked

variable {α : Type}

/-- A value that a shape has read from something within another value. -/
def ReadFrom (shape : Shape α) (v : Json) (a : α) : Prop :=
  ∃ w, Within w v ∧ shape w = .valid a

theorem ReadFrom.within {shape : Shape α} {v w : Json} {a : α} (h : ReadFrom shape v a)
    (hvw : Within v w) : ReadFrom shape w a := by
  obtain ⟨u, huv, hu⟩ := h
  exact ⟨u, huv.trans hvw, hu⟩

theorem readFrom_of_nullable {shape : Shape α} {v : Json} {a : α}
    (h : ReadFrom (nullable shape) v (some a)) : ReadFrom shape v a := by
  obtain ⟨w, hw, h⟩ := h
  unfold nullable at h
  split at h
  · cases h
  · obtain ⟨b, hb, heq⟩ := Checked.map_eq_valid_iff.1 h
    exact ⟨w, hw, Option.some.inj heq ▸ hb⟩

theorem readFrom_of_eq_some {shape : Shape α} {v : Json} {found : Option α} {a : α}
    (h : found = none ∨ ReadFrom (nullable shape) v found) (ha : found = some a) :
    ReadFrom shape v a := by
  subst ha
  rcases h with habsent | hread
  · cases habsent
  · exact readFrom_of_nullable hread

theorem readFrom_of_items {shape : Shape α} {vs : List Json} {i : Nat} {as : List α}
    (h : items shape i vs = .valid as) {a : α} (ha : a ∈ as) :
    ∃ v ∈ vs, shape v = .valid a := by
  induction vs generalizing i as with
  | nil =>
    cases h
    cases ha
  | cons v rest ih =>
    simp only [items, Checked.seq_eq_valid_iff, Checked.map_eq_valid_iff,
      Checked.under_eq_valid_iff] at h
    obtain ⟨_, ⟨b, hb, rfl⟩, bs, hbs, rfl⟩ := h
    rcases List.mem_cons.1 ha with rfl | ha
    · exact ⟨v, List.mem_cons_self, hb⟩
    · obtain ⟨w, hw, hshape⟩ := ih hbs ha
      exact ⟨w, List.mem_cons_of_mem _ hw, hshape⟩

theorem readFrom_of_listOf {shape : Shape α} {v : Json} {as : List α}
    (h : ReadFrom (listOf shape) v as) {a : α} (ha : a ∈ as) : ReadFrom shape v a := by
  obtain ⟨u, hu, h⟩ := h
  unfold listOf at h
  split at h
  · obtain ⟨w, hw, hshape⟩ := readFrom_of_items h ha
    exact ⟨w, (Within.item hw .self).trans hu, hshape⟩
  · cases h

theorem readFrom_of_entries {κ : Type} {key : Text → Checked κ} {shape : Shape α} {fields : Fields}
    {entries : List (κ × α)} (h : Schema.entries key shape fields = .valid entries) {k : κ} {a : α}
    (ha : (k, a) ∈ entries) : ∃ name v, (name, v) ∈ fields ∧ shape v = .valid a := by
  induction fields generalizing entries with
  | nil =>
    cases h
    cases ha
  | cons field rest ih =>
    obtain ⟨name, v⟩ := field
    simp only [Schema.entries, Checked.seq_eq_valid_iff, Checked.map_eq_valid_iff,
      Checked.under_eq_valid_iff] at h
    obtain ⟨_, ⟨_, ⟨_, ⟨k', _, rfl⟩, b, hb, rfl⟩, rfl⟩, others, hothers, rfl⟩ := h
    rcases List.mem_cons.1 ha with heq | ha
    · obtain ⟨rfl, rfl⟩ := Prod.mk.inj heq
      exact ⟨name, v, List.mem_cons_self, hb⟩
    · obtain ⟨name', w, hw, hshape⟩ := ih hothers ha
      exact ⟨name', w, List.mem_cons_of_mem _ hw, hshape⟩

theorem readFrom_of_tableOf {κ : Type} [DecidableEq κ] {key : Text → Checked κ} {shape : Shape α}
    {v : Json} {t : Table κ α} (h : ReadFrom (tableOf key shape) v t) {k : κ} {a : α}
    (ha : t.get? k = some a) : ReadFrom shape v a := by
  obtain ⟨u, hu, h⟩ := h
  unfold tableOf at h
  split at h
  · obtain ⟨entries, hentries, rfl⟩ := Checked.map_eq_valid_iff.1 h
    obtain ⟨name, w, hw, hshape⟩ := readFrom_of_entries hentries (Table.mem_of_get?_ofEntries ha)
    exact ⟨w, (Within.field hw .self).trans hu, hshape⟩
  · cases h

theorem nodup_of_tableOf {κ : Type} [DecidableEq κ] {key : Text → Checked κ} {shape : Shape α}
    {v : Json} {t : Table κ α} (h : ReadFrom (tableOf key shape) v t) :
    (t.map Prod.fst).Nodup := by
  obtain ⟨u, -, h⟩ := h
  unfold tableOf at h
  split at h
  · obtain ⟨entries, -, rfl⟩ := Checked.map_eq_valid_iff.1 h
    exact Table.nodup_ofEntries entries
  · cases h

namespace Form

variable {β : Type}

variable {fields : Fields} {P : β → Prop}

theorem forall_read_map {f : α → β} {x : Form α} :
    (∀ b, (f <$> x).read fields = .valid b → P b) ↔ ∀ a, x.read fields = .valid a → P (f a) := by
  change (∀ b, f <$> x.read fields = .valid b → P b) ↔ _
  simp only [Checked.map_eq_valid_iff]
  grind

theorem forall_read_seq {f : Form (α → β)} {x : Form α} :
    (∀ b, (f <*> x).read fields = .valid b → P b) ↔
      ∀ g, f.read fields = .valid g → ∀ a, x.read fields = .valid a → P (g a) := by
  change (∀ b, f.read fields <*> x.read fields = .valid b → P b) ↔ _
  simp only [Checked.seq_eq_valid_iff]
  grind

theorem read_optional_of_eq_some {name : Text} {v : Json} (h : fields.get? name = some v)
    (absent : α) (shape : Shape α) :
    (optional name absent shape).read fields = (shape v).under (.name name) := by
  simp only [optional, h]

theorem read_optional_of_eq_none {name : Text} (h : fields.get? name = none) (absent : α)
    (shape : Shape α) : (optional name absent shape).read fields = .valid absent := by
  simp only [optional, h]

theorem read_optional_congr {name : Text} {gs : Fields} (h : fields.get? name = gs.get? name)
    (absent : α) (shape : Shape α) :
    (optional name absent shape).read fields = (optional name absent shape).read gs := by
  simp only [optional, h]

theorem read_optional_erase {name other : Text} (h : name ≠ other) (absent : α) (shape : Shape α) :
    (optional other absent shape).read (fields.erase name) =
      (optional other absent shape).read fields :=
  read_optional_congr ((Table.get?_erase fields name other).trans (if_neg h)) absent shape

theorem read_optional_erase_self (name : Text) (absent : α) (shape : Shape α) :
    (optional name absent shape).read (fields.erase name) = .valid absent :=
  read_optional_of_eq_none ((Table.get?_erase fields name name).trans (if_pos rfl)) absent shape

theorem read_optional_insert {name other : Text} (h : name ≠ other) (v : Json) (absent : α)
    (shape : Shape α) : (optional other absent shape).read (fields.insert name v) =
      (optional other absent shape).read fields :=
  read_optional_congr ((Table.get?_insert fields name other v).trans (if_neg h)) absent shape

theorem read_optional_anything (name : Text) (fields : Fields) :
    (optional name .null anything).read fields = .valid ((fields.get? name).getD .null) := by
  cases h : fields.get? name with
  | none => exact read_optional_of_eq_none h _ _
  | some v => exact read_optional_of_eq_some h _ _

/-- An optional field that is not as it is by default has been read. -/
theorem optional_eq_valid {name : Text} {absent a : α} {shape : Shape α}
    (h : (optional name absent shape).read fields = .valid a) :
    a = absent ∨ ReadFrom shape (.obj fields) a := by
  unfold optional at h
  dsimp only at h
  split at h
  case h_1 v hv =>
    exact .inr ⟨v, .field (Table.mem_of_get? hv) .self, Checked.under_eq_valid_iff.1 h⟩
  case h_2 => exact .inl (by cases h; rfl)

/-- So has an optional field of a strict record. The form reads its fields one after another, and
this one is looked for among them. -/
theorem readFrom_strict (name : Text) (field : α → β) (absent : β) (shape : Shape β)
    {kind : Text} {form : Form α} {v : Json} {a : α} (h : ReadFrom (strict kind form) v a)
    (hfield : ∀ fields a, form.read fields = .valid a →
        (optional name absent shape).read fields = .valid (field a) := by
      simp only [Form.forall_read_seq, Form.forall_read_map]
      intros
      assumption) :
    field a = absent ∨ ReadFrom shape v (field a) := by
  obtain ⟨w, hw, h⟩ := h
  unfold strict at h
  split at h
  case h_1 fields =>
    split at h
    · cases h
    · simp only [Checked.seq_eq_valid_iff, Checked.map_eq_valid_iff] at h
      obtain ⟨_, ⟨b, hb, rfl⟩, _, _, rfl⟩ := h
      exact (optional_eq_valid (hfield fields b hb)).imp_right fun hread => hread.within hw
  case h_2 => cases h

end Form

end Schema
end RuleGate
