import RuleGate.Proofs.Schema

/-!
# Reading edited values

An edit puts other texts or names in a JSON value and leaves its form as it is. What a shape reads
from an edited value follows from what it read before (`Schema.Tracks`): there is one lemma for
each shape, and a record follows where its fields do (`Form.tracks_strict`). Names that are edited
must stay apart, or entries of a table would be lost.
-/

namespace RuleGate

namespace Json

abbrev Edit := Json → Json

def editText (f : Text → Text) : Edit
  | .str s => .str (f s)
  | v => v

def editItems (edit : Edit) : Edit
  | .arr vs => .arr (vs.map edit)
  | v => v

def editNames (f : Text → Text) : Edit
  | .obj fields => .obj (Table.mapKeys f fields)
  | v => v

def editValues (edit : Edit) : Edit
  | .obj fields => .obj (Table.mapValues edit fields)
  | v => v

/-- Fields that are not listed stay as they are. -/
def mapListed (edits : Table Text Edit) (fields : Fields) : Fields :=
  fields.mapEntries fun name => (edits.get? name).getD id

def editListed (edits : Table Text Edit) : Edit
  | .obj fields => .obj (mapListed edits fields)
  | v => v

theorem editItems_eq_null_iff {edit : Edit} (v : Json) : editItems edit v = .null ↔ v = .null := by
  cases v <;> simp [editItems]

theorem editListed_eq_null_iff {edits : Table Text Edit} (v : Json) :
    editListed edits v = .null ↔ v = .null := by
  cases v <;> simp [editListed]

end Json

namespace Schema

open Json (Edit)

variable {α κ : Type}

/-- Whatever reads as one value reads as the other once it has been edited. -/
def Tracks (shape : Shape α) (edit : Edit) (a a' : α) : Prop :=
  ∀ v, shape v = .valid a → shape (edit v) = .valid a'

variable {shape : Shape α} {edit : Edit} {f : α → α}

theorem tracks_text (f : Text → Text) (s : Text) : Tracks text (Json.editText f) s (f s) := by
  intro v hv
  cases v <;> cases hv
  rfl

theorem tracks_nullable {o : Option α} (hnull : ∀ v, edit v = .null ↔ v = .null)
    (h : ∀ a, o = some a → Tracks shape edit a (f a)) :
    Tracks (nullable shape) edit o (o.map f) := by
  intro v hv
  by_cases hnone : v = .null
  · subst hnone
    rw [(hnull .null).2 rfl]
    cases hv
    rfl
  · have hsome {u : Json} (hu : u ≠ .null) : nullable shape u = some <$> shape u := by
      cases u <;> first | rfl | exact absurd rfl hu
    rw [hsome hnone] at hv
    obtain ⟨a, ha, rfl⟩ := Checked.map_eq_valid_iff.1 hv
    rw [hsome fun hedit => hnone ((hnull v).1 hedit), h a rfl v ha]
    rfl

theorem items_tracks {vs : List Json} {i : Nat} {as : List α}
    (h : ∀ a ∈ as, Tracks shape edit a (f a)) (hread : items shape i vs = .valid as) :
    items shape i (vs.map edit) = .valid (as.map f) := by
  induction vs generalizing i as with
  | nil =>
    cases hread
    rfl
  | cons v rest ih =>
    simp only [items, Checked.seq_eq_valid_iff, Checked.map_eq_valid_iff,
      Checked.under_eq_valid_iff] at hread
    obtain ⟨_, ⟨a, ha, rfl⟩, others, hothers, rfl⟩ := hread
    obtain ⟨hfirst, hrest⟩ := List.forall_mem_cons.1 h
    simp only [List.map_cons, items, ih hrest hothers, hfirst v ha]
    rfl

theorem tracks_listOf {as : List α} (h : ∀ a ∈ as, Tracks shape edit a (f a)) :
    Tracks (listOf shape) (Json.editItems edit) as (as.map f) := by
  intro v hv
  cases v with
  | arr vs => exact items_tracks h hv
  | _ => cases hv

theorem entries_mapValues {key : Text → Checked κ} {fields : Fields} {es : List (κ × α)}
    (h : ∀ a, Tracks shape edit a (f a)) (hread : entries key shape fields = .valid es) :
    entries key shape (Table.mapValues edit fields) =
      .valid (es.map fun e => (e.1, f e.2)) := by
  induction fields generalizing es with
  | nil =>
    cases hread
    rfl
  | cons field rest ih =>
    simp only [entries, Checked.seq_eq_valid_iff, Checked.map_eq_valid_iff,
      Checked.under_eq_valid_iff] at hread
    obtain ⟨_, ⟨_, ⟨_, ⟨k, hk, rfl⟩, a, ha, rfl⟩, rfl⟩, others, hothers, rfl⟩ := hread
    have hothers' := ih hothers
    simp only [Table.mapValues] at hothers' ⊢
    simp only [List.map_cons, entries, hothers', hk, h a field.2 ha]
    rfl

theorem tracks_values [DecidableEq κ] {key : Text → Checked κ}
    (h : ∀ a, Tracks shape edit a (f a)) (t : Table κ α) :
    Tracks (tableOf key shape) (Json.editValues edit) t (t.mapValues f) := by
  intro v hv
  cases v with
  | obj fields =>
    obtain ⟨es, hread, rfl⟩ := Checked.map_eq_valid_iff.1 hv
    rw [← Table.ofEntries_mapValues]
    exact congrArg (Table.ofEntries <$> ·) (entries_mapValues h hread)
  | _ => cases hv

theorem entries_mapKeys {f : Text → Text} {fields : Fields} {es : Table Text α}
    (hread : entries .valid shape fields = .valid es) :
    entries .valid shape (Table.mapKeys f fields) = .valid (es.mapKeys f) := by
  induction fields generalizing es with
  | nil =>
    cases hread
    rfl
  | cons field rest ih =>
    simp only [entries, Checked.seq_eq_valid_iff, Checked.map_eq_valid_iff,
      Checked.under_eq_valid_iff] at hread
    obtain ⟨_, ⟨_, ⟨_, ⟨k, hk, rfl⟩, a, ha, rfl⟩, rfl⟩, others, hothers, rfl⟩ := hread
    cases hk
    have hothers' := ih hothers
    simp only [Table.mapKeys] at hothers' ⊢
    simp only [List.map_cons, entries, hothers', ha]
    rfl

theorem tracks_names {f : Text → Text} {t : Table Text α} (h : t.Apart f) :
    Tracks (tableOf .valid shape) (Json.editNames f) t (t.mapKeys f) := by
  intro v hv
  cases v with
  | obj fields =>
    obtain ⟨es, hread, rfl⟩ := Checked.map_eq_valid_iff.1 hv
    rw [← Table.ofEntries_mapKeys h]
    exact congrArg (Table.ofEntries <$> ·) (entries_mapKeys hread)
  | _ => cases hv

namespace Form

variable {fields : Fields} {name : Text} {edits : Table Text Edit} {β : Type}

theorem read_map (f : α → β) (x : Form α) : (f <$> x).read fields = f <$> x.read fields := rfl

theorem read_seq (f : Form (α → β)) (x : Form α) :
    (f <*> x).read fields = f.read fields <*> x.read fields := rfl

theorem get?_mapListed_of_eq_some (h : edits.get? name = some edit) :
    (Json.mapListed edits fields).get? name = (fields.get? name).map edit := by
  rw [Json.mapListed, Table.get?_mapEntries, h, Option.getD_some]

theorem get?_mapListed_of_eq_none (h : edits.get? name = none) :
    (Json.mapListed edits fields).get? name = fields.get? name := by
  rw [Json.mapListed, Table.get?_mapEntries, h, Option.getD_none, Option.map_id, id]

theorem read_optional_mapListed (absent : α) (shape : Shape α) (h : edits.get? name = none) :
    (optional name absent shape).read (Json.mapListed edits fields) =
      (optional name absent shape).read fields := by
  simp only [optional, get?_mapListed_of_eq_none h]

theorem read_required_mapListed (shape : Shape α) (h : edits.get? name = none) :
    (required name shape).read (Json.mapListed edits fields) =
      (required name shape).read fields := by
  simp only [required, get?_mapListed_of_eq_none h]

theorem read_optional_of_tracks (edits : Table Text Edit) (hedit : edits.get? name = some edit)
    {absent a a' : α} (habsent : a = absent → a' = absent) (h : Tracks shape edit a a')
    (hread : (optional name absent shape).read fields = .valid a) :
    (optional name absent shape).read (Json.mapListed edits fields) = .valid a' := by
  simp only [optional, get?_mapListed_of_eq_some hedit] at hread ⊢
  cases hv : fields.get? name with
  | none =>
    simp only [hv] at hread
    cases hread
    simp only [Option.map_none, habsent rfl]
  | some v =>
    simp only [hv, Checked.under_eq_valid_iff] at hread
    simp only [Option.map_some, h v hread]
    rfl

theorem read_required_of_tracks (edits : Table Text Edit) (hedit : edits.get? name = some edit)
    {a a' : α} (h : Tracks shape edit a a')
    (hread : (required name shape).read fields = .valid a) :
    (required name shape).read (Json.mapListed edits fields) = .valid a' := by
  simp only [required, get?_mapListed_of_eq_some hedit, Checked.under_eq_valid_iff] at hread ⊢
  cases hv : fields.get? name with
  | none =>
    rw [hv] at hread
    cases hread
  | some v =>
    rw [hv] at hread
    exact h v hread

theorem unknown_mapListed (names : List Text) :
    unknown names (Json.mapListed edits fields) = unknown names fields := by
  simp only [unknown, Json.mapListed, Table.mapEntries, List.filter_map, List.map_map]
  rfl

theorem tracks_strict {kind : Text} {form : Form α} {a a' : α}
    (h : ∀ fields, form.read fields = .valid a →
      form.read (Json.mapListed edits fields) = .valid a') :
    Tracks (strict kind form) (Json.editListed edits) a a' := by
  intro v hv
  cases v with
  | obj fields =>
    have hnames : (Json.mapListed edits fields).any (·.1.hasHalf) =
        fields.any (·.1.hasHalf) := List.any_map
    have hothers : noOthers form.names (Json.mapListed edits fields) =
        noOthers form.names fields := by
      unfold noOthers
      rw [unknown_mapListed]
    simp only [strict, Json.editListed, hnames, hothers] at hv ⊢
    split at hv
    · cases hv
    · simp only [Checked.seq_eq_valid_iff, Checked.map_eq_valid_iff] at hv
      obtain ⟨_, ⟨_, hread, rfl⟩, _, hknown, rfl⟩ := hv
      rw [if_neg ‹_›, h fields hread, hknown]
      rfl
  | _ => cases hv

end Form

end Schema
end RuleGate
