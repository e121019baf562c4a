import RuleGate.Descriptor.Item
import RuleGate.Proofs.Descriptor.Numbers

/-!
# Items on which compiling is stuck

Compiling is stuck on the item descriptors that are *faulty* (`ItemTest.stuck_compile_iff`): on text
that is read as JSON and has an integer of too many digits, be it the whole descriptor or the tag of
a compact one, and on an object of which a faulty number is reached. Names and damage are read
before the tag, and an item that is not known is no fault.
-/

namespace RuleGate

open Failure

/-- JSON text that is given up because of an integer with more digits than are ever read. -/
def Json.OverlongText (text : Text) : Prop := ∃ n, read text = .error (.tooLong n)

namespace Descriptor

def Faulty : Json → Prop
  | .str raw => looksLikeJson (Text.strip raw) ∧ Json.OverlongText (Text.strip raw)
  | _ => False

theorem stuck_decode_iff {raw : Json} : Stuck (decode raw) ↔ Faulty raw := by
  cases raw with
  | str raw =>
    simp only [decode, decodeText, Faulty, Json.OverlongText]
    by_cases hlooks : looksLikeJson (Text.strip raw)
    · rcases Json.read (Text.strip raw) with (e | n) | v <;> simp [hlooks]
    · simp [hlooks]
  | _ => simp [decode, Faulty]

theorem stuck_onPart {α β : Type} {f : α → Except Failure β} {part : Option α} :
    Stuck (onPart f part) ↔ ∃ a, part = some a ∧ Stuck (f a) := by
  cases part <;> simp [onPart, stuck_map]

theorem onPart_ok_iff {α β : Type} {f : α → Except Failure β} {part : Option α} :
    (∃ b, onPart f part = .ok b) ↔ ∀ a, part = some a → ∃ b, f a = .ok b := by
  cases part with
  | none => simp [onPart]
  | some a => cases h : f a <;> simp [onPart, h, Except.map]

theorem ofObject_ok_iff {α : Type} {kind : DescriptorKind} {form : Schema.Form α}
    {fields : Fields} {a : α} :
    ofObject kind form fields = .ok a ↔ form.read fields = .valid a := by
  unfold ofObject
  cases form.read fields <;> simp

theorem not_stuck_ofObject {α : Type} (kind : DescriptorKind) (form : Schema.Form α)
    (fields : Fields) : ¬ Stuck (ofObject kind form fields) := by
  unfold ofObject
  cases form.read fields <;> simp

end Descriptor

def ItemDescriptor.numbers (d : ItemDescriptor) : List Json :=
  d.damage.given ++ d.count.given ++ TagDescriptor.valuesOf (d.nbt.getD []) ++ d.energy.given

namespace ItemTest

variable (r : Registry)

def Named (d : ItemDescriptor) : Prop :=
  (d.item.isSome ∨ d.empty.isSome) ∧ ∀ name, d.item = some name → r.hasItem name

/-- The damage of a compact description that is no error. -/
def FineDamage (cs : Text) : Prop :=
  cs.all Text.isBlank ∨ (Text.integer? cs).isSome

def OverlongTag (cs : Text) : Prop :=
  ¬ cs.all Text.isBlank ∧ Json.OverlongText cs

/-- Name and damage are read before the tag. -/
def FaultyCompact (whole : Text) : Prop :=
  let named := Text.splitAt '/' whole
  let name := Text.splitAt '@' named.1
  r.hasItem name.1 ∧ (∀ cs, name.2 = some cs → FineDamage cs) ∧
    ∃ cs, named.2 = some cs ∧ OverlongTag cs

def FaultyObject (object : Fields) : Prop :=
  ∃ d, ItemDescriptor.form.read object = .valid d ∧ Named r d ∧
    Reaches Expression.Reads Expression.Faulty d.numbers

/-- An entry on which compiling is stuck. -/
inductive Faulty (entry : Json) : Prop
  | text (h : Descriptor.Faulty entry)
  | compact (whole : Text) (hd : Descriptor.decode entry = .ok (.str whole))
      (h : FaultyCompact r whole)
  | object (fields : Fields) (hd : Descriptor.decode entry = .ok (.obj fields))
      (h : FaultyObject r fields)

theorem knownItem_ok_iff {name : Text} :
    (∃ item, knownItem r name = .ok item) ↔ r.hasItem name := by
  unfold knownItem
  split <;> simp_all

theorem not_stuck_knownItem (name : Text) : ¬ Stuck (knownItem r name) := by
  unfold knownItem
  split <;> simp

theorem compactDamage_ok_iff {whole cs : Text} :
    (∃ n, compactDamage whole cs = .ok n) ↔ FineDamage cs := by
  unfold compactDamage FineDamage
  cases Text.integer? cs <;> by_cases hb : cs.all Text.isBlank <;> simp [hb]

theorem not_stuck_compactDamage (whole cs : Text) : ¬ Stuck (compactDamage whole cs) := by
  unfold compactDamage
  cases Text.integer? cs <;> by_cases hb : cs.all Text.isBlank <;> simp [hb]

theorem stuck_compactTag_iff {whole cs : Text} :
    Stuck (compactTag whole cs) ↔ OverlongTag cs := by
  unfold compactTag OverlongTag Json.OverlongText
  by_cases hb : cs.all Text.isBlank
  · simp [hb]
  · rcases Json.read cs with (e | n) | v <;> simp [hb]

theorem onPart_compactDamage_ok_iff {whole : Text} {part : Option Text} :
    (∃ n, Descriptor.onPart (compactDamage whole) part = .ok n) ↔
      ∀ cs, part = some cs → FineDamage cs := by
  rw [Descriptor.onPart_ok_iff]
  simp only [compactDamage_ok_iff]

theorem stuck_compileCompact_iff {whole : Text} :
    Stuck (compileCompact r whole) ↔ FaultyCompact r whole := by
  simp only [compileCompact, FaultyCompact, stuck_bind, not_stuck_knownItem, false_or,
    Descriptor.stuck_onPart, not_stuck_compactDamage, and_false, exists_false,
    stuck_compactTag_iff, ← knownItem_ok_iff r, ← @onPart_compactDamage_ok_iff whole]
  constructor
  · rintro ⟨item, hitem, damage, hdamage, htag | ⟨tag, _, hdone⟩⟩
    · exact ⟨⟨item, hitem⟩, ⟨damage, hdamage⟩, htag⟩
    · exact absurd hdone (not_stuck_ok _)
  · rintro ⟨⟨item, hitem⟩, ⟨damage, hdamage⟩, htag⟩
    exact ⟨item, hitem, damage, hdamage, .inl htag⟩

theorem follows_numbers (d : ItemDescriptor) (item : Option Text) :
    Follows (do
      let damage ← Expression.optional d.damage
      let count ← Expression.optional d.count
      let tags ← TagTest.compileAll (d.nbt.getD [])
      let energy ← Expression.optional d.energy
      return fields { empty := d.empty, item, damage, count, mod := d.mod, tags, energy })
      d.numbers := by
  have h := (Expression.follows_optional d.damage).bind fun damage =>
    (Expression.follows_optional d.count).bind fun count =>
    (TagTest.follows_compileAll (d.nbt.getD [])).bind fun tags =>
    (Expression.follows_optional d.energy).bind fun energy =>
    .pure (fields { empty := d.empty, item, damage, count, mod := d.mod, tags, energy })
  simpa only [ItemDescriptor.numbers, List.append_assoc, List.append_nil] using h

theorem onPart_knownItem_ok_iff {part : Option Text} :
    (∃ item, Descriptor.onPart (knownItem r) part = .ok item) ↔
      ∀ name, part = some name → r.hasItem name := by
  rw [Descriptor.onPart_ok_iff]
  simp only [knownItem_ok_iff]

theorem stuck_compileObject_iff {object : Fields} :
    Stuck (compileObject r object) ↔ FaultyObject r object := by
  simp only [compileObject, stuck_bind, Descriptor.not_stuck_ofObject, false_or,
    Descriptor.ofObject_ok_iff, FaultyObject]
  apply exists_congr
  intro d
  apply and_congr_right
  intro _
  have hbare : d.item.isNone && d.empty.isNone ↔ ¬ (d.item.isSome ∨ d.empty.isSome) := by
    cases d.item <;> cases d.empty <;> simp
  by_cases hdescribed : d.item.isSome ∨ d.empty.isSome
  · rw [if_neg fun h => hbare.1 h hdescribed, stuck_bind, Descriptor.stuck_onPart, Named,
      and_iff_right hdescribed, ← onPart_knownItem_ok_iff]
    simp only [not_stuck_knownItem, and_false, exists_false, false_or]
    constructor
    · rintro ⟨item, hitem, h⟩
      exact ⟨⟨item, hitem⟩, (follows_numbers d item).stuck_iff.1 h⟩
    · rintro ⟨⟨item, hitem⟩, h⟩
      exact ⟨item, hitem, (follows_numbers d item).stuck_iff.2 h⟩
  · rw [if_pos (hbare.2 hdescribed)]
    exact iff_of_false (not_stuck_compile _) fun h => hdescribed h.1.1

theorem stuck_compile_iff {entry : Json} : Stuck (compile r entry) ↔ Faulty r entry := by
  unfold compile
  rw [stuck_bind, Descriptor.stuck_decode_iff]
  constructor
  · rintro (h | ⟨v, hv, h⟩)
    · exact .text h
    · cases v with
      | str whole => exact .compact whole hv ((stuck_compileCompact_iff r).1 h)
      | obj object => exact .object object hv ((stuck_compileObject_iff r).1 h)
      | _ => exact absurd h (not_stuck_compile _)
  · intro h
    cases h with
    | text h => exact .inl h
    | compact whole hd h => exact .inr ⟨_, hd, (stuck_compileCompact_iff r).2 h⟩
    | object fields hd h => exact .inr ⟨_, hd, (stuck_compileObject_iff r).2 h⟩

end ItemTest
end RuleGate
