import RuleGate.Proofs.Descriptor.Numbers
import RuleGate.Proofs.Lists
import RuleGate.Proofs.Schema

/-!
# How tag descriptors are read

What lies too deep makes the whole descriptor invalid, so where one is valid nothing has been
refused on the way (`snd_ofJson_of_valid`), and each descriptor of a list is read by itself
(`ofItems_eq_valid_iff`). A valid descriptor is what its object says: the text under `tag`, the
value under `value`, and under `contains` a list of descriptors one level further down
(`reads_iff`).
-/

namespace RuleGate.TagDescriptor

open Schema

theorem induction {P : TagDescriptor → Prop} (value : ∀ tag v, P ⟨tag, v, none⟩)
    (contains : ∀ tag v children, (∀ d ∈ children, P d) → P ⟨tag, v, some children⟩)
    (d : TagDescriptor) : P d := by
  obtain ⟨tag, v, _ | children⟩ := d
  · exact value tag v
  · exact contains tag v children (all children)
where
  all (ds : List TagDescriptor) : ∀ d ∈ ds, P d := by
    cases ds with
    | nil => exact List.forall_mem_nil _
    | cons d rest => exact List.forall_mem_cons.2 ⟨induction value contains d, all rest⟩

theorem valuesOf_eq_flatMap (ds : List TagDescriptor) : valuesOf ds = ds.flatMap values := by
  induction ds with
  | nil => rfl
  | cons d rest ih => rw [valuesOf, List.flatMap_cons, ih]

/-- The first item of a list, read or refused. -/
def ofItem (depth : Nat) (refused : Refused) (v : Json) : Checked TagDescriptor × Refused :=
  if refused.any (isShared v) then (.fail .cycle, refused)
  else if depth < depthLimit then ofJson (depth + 1) refused v
  else (.fail .tooDeep, v :: refused)

theorem ofItems_cons (depth i : Nat) (refused : Refused) (v : Json) (rest : List Json) :
    ofItems depth i refused (v :: rest) =
      let first := ofItem depth refused v
      let others := ofItems depth (i + 1) first.2 rest
      (List.cons <$> first.1.under (.index i) <*> others.1, others.2) := by
  rw [ofItems]
  rfl

theorem ofItem_eq_valid_iff {depth : Nat} {refused : Refused} {v : Json} {d : TagDescriptor} :
    (ofItem depth refused v).1 = .valid d ↔
      refused.any (isShared v) = false ∧ depth < depthLimit ∧
        (ofJson (depth + 1) refused v).1 = .valid d := by
  unfold ofItem
  split
  case isTrue hshared => simp [hshared, Checked.fail]
  case isFalse hshared =>
    split
    case isTrue hdepth => simp [hshared, hdepth]
    case isFalse hdepth => simp [hdepth, Checked.fail]

theorem ofItem_of_valid {depth : Nat} {refused : Refused} {v : Json} {d : TagDescriptor}
    (h : (ofItem depth refused v).1 = .valid d) :
    ofItem depth refused v = ofJson (depth + 1) refused v := by
  obtain ⟨hshared, hdepth, -⟩ := ofItem_eq_valid_iff.1 h
  rw [ofItem, hshared, if_neg Bool.false_ne_true, if_pos hdepth]

mutual

theorem snd_ofJson_of_valid {depth : Nat} {refused : Refused} {v : Json} {d : TagDescriptor}
    (h : (ofJson depth refused v).1 = .valid d) : (ofJson depth refused v).2 = refused := by
  match v with
  | .obj fields =>
    rw [ofJson] at h ⊢
    obtain ⟨_, _, contains, hcontains, _⟩ := Checked.seq_eq_valid_iff.1 h
    exact snd_containsIn_of_valid hcontains
  | .null | .bool _ | .int _ | .float _ | .str _ | .arr _ => cases h
termination_by structural v

theorem snd_containsIn_of_valid {depth : Nat} {refused : Refused} {fields : List (Text × Json)}
    {contains : Option (List TagDescriptor)}
    (h : (containsIn depth refused fields).1 = .valid contains) :
    (containsIn depth refused fields).2 = refused := by
  match fields with
  | [] => rfl
  | (name, v) :: rest =>
    rw [containsIn] at h ⊢
    split at h
    case isTrue heq =>
      rw [if_pos heq]
      exact snd_ofList?_of_valid (Checked.under_eq_valid_iff.1 h)
    case isFalse heq =>
      rw [if_neg heq]
      exact snd_containsIn_of_valid h
termination_by structural fields

theorem snd_ofList?_of_valid {depth : Nat} {refused : Refused} {v : Json}
    {contains : Option (List TagDescriptor)} (h : (ofList? depth refused v).1 = .valid contains) :
    (ofList? depth refused v).2 = refused := by
  match v with
  | .null => rfl
  | .arr vs =>
    obtain ⟨ds, hds, _⟩ := Checked.map_eq_valid_iff.1 h
    exact snd_ofItems_of_valid hds
  | .bool _ | .int _ | .float _ | .str _ | .obj _ => cases h
termination_by structural v

theorem snd_ofItems_of_valid {depth i : Nat} {refused : Refused} {vs : List Json}
    {ds : List TagDescriptor} (h : (ofItems depth i refused vs).1 = .valid ds) :
    (ofItems depth i refused vs).2 = refused := by
  match vs with
  | [] => rfl
  | v :: rest =>
    rw [ofItems_cons] at h ⊢
    obtain ⟨_, hfirst, _, hothers, _⟩ := Checked.seq_eq_valid_iff.1 h
    obtain ⟨d, hd, _⟩ := Checked.map_eq_valid_iff.1 hfirst
    have hitem := Checked.under_eq_valid_iff.1 hd
    have hrest := snd_ofItems_of_valid hothers
    dsimp only
    rw [hrest, ofItem_of_valid hitem]
    exact snd_ofJson_of_valid (ofItem_eq_valid_iff.1 hitem).2.2
termination_by structural vs

end

/-- A value is read as a descriptor that lies in so many others. -/
def Reads (depth : Nat) (v : Json) (d : TagDescriptor) : Prop :=
  (ofJson depth [] v).1 = .valid d

/-- A list is read as one of descriptors, unless its items lie too deep. -/
def ReadsAll (depth : Nat) (vs : List Json) (ds : List TagDescriptor) : Prop :=
  List.Forall₂ (fun v d => depth < depthLimit ∧ Reads (depth + 1) v d) vs ds

/-- What stands under a name is read as a list of descriptors, or as none. -/
inductive ReadsList (depth : Nat) : Option Json → Option (List TagDescriptor) → Prop
  | absent : ReadsList depth none none
  | null : ReadsList depth (some .null) none
  | list {vs : List Json} {ds : List TagDescriptor} (h : ReadsAll depth vs ds) :
      ReadsList depth (some (.arr vs)) (some ds)

theorem Reads.unique {depth : Nat} {v : Json} {d d' : TagDescriptor} (h : Reads depth v d)
    (h' : Reads depth v d') : d = d' := by
  cases h.symm.trans h'
  rfl

theorem ofItems_eq_valid_iff {depth i : Nat} {vs : List Json} {ds : List TagDescriptor} :
    (ofItems depth i [] vs).1 = .valid ds ↔ ReadsAll depth vs ds := by
  induction vs generalizing i ds with
  | nil => simp [ofItems, ReadsAll, eq_comm]
  | cons v rest ih =>
    rw [ofItems_cons]
    simp only [Checked.seq_eq_valid_iff, Checked.map_eq_valid_iff, Checked.under_eq_valid_iff,
      ReadsAll, List.forall₂_cons_left_iff]
    constructor
    · rintro ⟨_, ⟨d, hd, rfl⟩, others, hothers, rfl⟩
      obtain ⟨-, hdepth, hread⟩ := ofItem_eq_valid_iff.1 hd
      rw [ofItem_of_valid hd, snd_ofJson_of_valid hread] at hothers
      exact ⟨d, others, ⟨hdepth, hread⟩, ih.1 hothers, rfl⟩
    · rintro ⟨d, others, ⟨hdepth, hread⟩, hothers, rfl⟩
      have hd : (ofItem depth [] v).1 = .valid d := ofItem_eq_valid_iff.2 ⟨rfl, hdepth, hread⟩
      refine ⟨_, ⟨d, hd, rfl⟩, others, ?_, rfl⟩
      rw [ofItem_of_valid hd, snd_ofJson_of_valid hread]
      exact ih.2 hothers

theorem ofList?_eq_valid_iff {depth : Nat} {v : Json} {contains : Option (List TagDescriptor)} :
    (ofList? depth [] v).1 = .valid contains ↔ ReadsList depth (some v) contains := by
  constructor
  · intro h
    cases v with
    | null =>
      cases h
      exact .null
    | arr vs =>
      obtain ⟨ds, hds, rfl⟩ := Checked.map_eq_valid_iff.1 h
      exact .list (ofItems_eq_valid_iff.1 hds)
    | _ => cases h
  · rintro (_ | _ | hds)
    · rfl
    · exact Checked.map_eq_valid_iff.2 ⟨_, ofItems_eq_valid_iff.2 hds, rfl⟩

theorem containsIn_eq_valid_iff {depth : Nat} {fields : Fields}
    {contains : Option (List TagDescriptor)} :
    (containsIn depth [] fields).1 = .valid contains ↔
      ReadsList depth (fields.get? "contains") contains := by
  induction fields with
  | nil =>
    constructor
    · intro h
      cases h
      exact .absent
    · rintro ⟨⟩
      rfl
  | cons field rest ih =>
    obtain ⟨name, v⟩ := field
    rw [containsIn, Table.get?]
    split
    case isTrue => rw [Checked.under_eq_valid_iff, ofList?_eq_valid_iff]
    case isFalse => exact ih

theorem read_required_text_iff {name s : Text} {fields : Fields} :
    (Form.required name text).read fields = .valid s ↔ fields.get? name = some (.str s) := by
  unfold Form.required
  rw [Checked.under_eq_valid_iff]
  cases fields.get? name with
  | none => simp [Checked.fail]
  | some v => cases v <;> simp [text, Checked.fail]

theorem reads_iff {depth : Nat} {v : Json} {tag : Text} {value : Json}
    {contains : Option (List TagDescriptor)} :
    Reads depth v ⟨tag, value, contains⟩ ↔ ∃ fields : Fields, v = .obj fields ∧
      fields.get? "tag" = some (.str tag) ∧ (fields.get? "value").getD .null = value ∧
      ReadsList depth (fields.get? "contains") contains := by
  cases v with
  | obj fields =>
    simp only [Reads, ofJson, Checked.seq_eq_valid_iff, Checked.map_eq_valid_iff,
      read_required_text_iff, Form.read_optional_anything, containsIn_eq_valid_iff,
      Checked.valid.injEq, Json.obj.injEq, exists_eq_left']
    constructor
    · rintro ⟨_, ⟨_, ⟨_, htag, rfl⟩, rfl⟩, _, hcontains, heq⟩
      obtain ⟨rfl, rfl, rfl⟩ := TagDescriptor.mk.inj heq
      exact ⟨htag, rfl, hcontains⟩
    · rintro ⟨htag, rfl, hcontains⟩
      exact ⟨_, ⟨_, ⟨_, htag, rfl⟩, rfl⟩, _, hcontains, rfl⟩
  | _ =>
    refine iff_of_false ?_ ?_
    · intro h
      cases h
    · rintro ⟨_, hv, _⟩
      cases hv

end RuleGate.TagDescriptor
