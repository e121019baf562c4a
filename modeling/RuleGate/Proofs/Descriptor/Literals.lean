import RuleGate.Proofs.Descriptor.Contents

/-!
# Numbers written in descriptors

A finite number may stand for an expression in five fields: the damage, the count and the energy of
an item, the energy of a block, and the value of a tag. In all of them it asks for one integer, the
number without its fraction (`Expression.ofJson_of_rational?`). So it asks for the number itself
where the number is whole, and nowhere else (`AsksFor.of_number`).
-/

namespace RuleGate

open Schema (Checked Form anything)

/-- The number that a value is, if it is a finite one. -/
def Json.rational? : Json → Option ℚ
  | .int i => some i
  | .float d => d.value?
  | _ => none

theorem towardZero_intCast (i : ℤ) : towardZero i = i := by
  unfold towardZero
  split
  · exact Int.floor_intCast i
  · exact Int.ceil_intCast i

theorem Expression.ofJson_of_rational? {v : Json} {q : ℚ} (h : v.rational? = some q) :
    ofJson v = .ok (.compare .eq (towardZero q)) := by
  cases v with
  | int i =>
    obtain rfl := Option.some.inj h
    rw [towardZero_intCast, ofJson]
  | float d =>
    have hwhole : d.truncate = .ok (towardZero q) := Double.truncate_eq_towardZero h
    rw [ofJson, ofDouble, hwhole]
  | _ => cases h

theorem Expression.optional_of_ofJson {v : Json} {e : Expression} (h : ofJson v = .ok e) :
    optional v = .ok (some e) := by
  have hv : v ≠ .null := by
    rintro rfl
    cases h
  exact (optional_eq_ok_iff hv).2 ⟨e, h, rfl⟩

/-- Fields that ask for one thing more, and of the tag for nothing else. -/
theorem ItemFields.holds_of_narrower {f g : ItemFields} {s : ItemStack} {b x : Bool}
    (htags : g.tags = f.tags) (hplain : g.plainHold s = true → f.plainHold s = true)
    (hboth : (g.plainHold s && g.energyHolds s) = (f.plainHold s && f.energyHolds s && x))
    (h : f.holds s = .ok b) : g.holds s = .ok (b && x) := by
  rw [holds] at h ⊢
  rw [htags]
  cases hf : f.plainHold s with
  | false =>
    have hg : g.plainHold s = false := by
      rw [Bool.eq_false_iff]
      intro hg
      cases hf.symm.trans (hplain hg)
    rw [hf] at h
    cases h
    rw [hg]
    rfl
  | true =>
    rw [hf] at h hboth
    obtain ⟨tagged, htagged, hb⟩ := Except.bind_eq_ok_iff.1 h
    obtain rfl := Except.ok.inj hb
    have hrest : (g.plainHold s && (tagged && g.energyHolds s)) =
        (tagged && f.energyHolds s && x) := by
      rw [Bool.and_left_comm, hboth, Bool.true_and, Bool.and_assoc]
    rw [← hrest, htagged]
    cases g.plainHold s <;> rfl

/-- The numbers of a stack that a description may speak of. -/
inductive ItemNumber
  | damage | count | energy

namespace ItemNumber

def name : ItemNumber → Text
  | damage => "damage"
  | count => "count"
  | energy => "energy"

def of (s : ItemStack) : ItemNumber → ℤ
  | damage => s.damage
  | count => s.count
  | energy => s.energy.getD 0

def written (d : ItemDescriptor) : ItemNumber → Json
  | damage => d.damage
  | count => d.count
  | energy => d.energy

def write (v : Json) (d : ItemDescriptor) : ItemNumber → ItemDescriptor
  | damage => { d with damage := v }
  | count => { d with count := v }
  | energy => { d with energy := v }

def asked (f : ItemFields) : ItemNumber → Option Expression
  | damage => f.damage
  | count => f.count
  | energy => f.energy

def ask (e : Expression) (f : ItemFields) : ItemNumber → ItemFields
  | damage => { f with damage := some e }
  | count => { f with count := some e }
  | energy => { f with energy := some e }

variable {k : ItemNumber} {r : Registry} {d : ItemDescriptor} {f : ItemFields} {object : Fields}
  {v : Json} {e : Expression}

theorem optional_written (h : ItemFields.CompiledFrom r d f) :
    Expression.optional (k.written d) = .ok (k.asked f) := by
  cases k with
  | damage => exact h.damage
  | count => exact h.count
  | energy => exact h.energy

theorem compiledFrom_ask (h : ItemFields.CompiledFrom r d f) (he : Expression.ofJson v = .ok e) :
    ItemFields.CompiledFrom r (k.write v d) (k.ask e f) := by
  have hoptional := Expression.optional_of_ofJson he
  cases k with
  | damage => exact { h with damage := hoptional }
  | count => exact { h with count := hoptional }
  | energy => exact { h with energy := hoptional }

/-- The field is all that an object without it lacks. -/
theorem read_of_read_erase (hget : object.get? k.name = some v)
    (hread : ItemDescriptor.form.read (object.erase k.name) = .valid d) :
    ItemDescriptor.form.read object = .valid (k.write v d) ∧ k.written d = .null := by
  have hthis : (Form.optional k.name .null anything).read object = .valid v := by
    rw [Form.read_optional_anything, hget, Option.getD_some]
  have hnull {w : Json} (hw : (Form.optional k.name .null anything).read (object.erase k.name) =
      .valid w) : w = .null :=
    Checked.valid.inj (hw.symm.trans (Form.read_optional_erase_self k.name .null anything))
  obtain ⟨hempty, hitem, hdamage, hcount, hmod, hnbt, henergy⟩ :=
    ItemDescriptor.read_form_iff.1 hread
  rw [ItemDescriptor.read_form_iff]
  cases k with
  | damage =>
    rw [Form.read_optional_erase (by decide)] at hempty hitem hcount hmod hnbt henergy
    exact ⟨⟨hempty, hitem, hthis, hcount, hmod, hnbt, henergy⟩, hnull hdamage⟩
  | count =>
    rw [Form.read_optional_erase (by decide)] at hempty hitem hdamage hmod hnbt henergy
    exact ⟨⟨hempty, hitem, hdamage, hthis, hmod, hnbt, henergy⟩, hnull hcount⟩
  | energy =>
    rw [Form.read_optional_erase (by decide)] at hempty hitem hdamage hcount hmod hnbt
    exact ⟨⟨hempty, hitem, hdamage, hcount, hmod, hnbt, hthis⟩, hnull henergy⟩

theorem holds_ask {s : ItemStack} {b : Bool} (hnone : k.asked f = none) (h : f.holds s = .ok b) :
    (k.ask e f).holds s = .ok (b && e.holds (k.of s)) := by
  have htags : (k.ask e f).tags = f.tags := by cases k <;> rfl
  refine ItemFields.holds_of_narrower htags ?_ ?_ h
  · cases k <;> simp_all [ask, asked, ItemFields.plainHold, ItemFields.wanted]
  -- the fields are asked in their order, so the new one stands somewhere among the others
  · cases k <;> simp_all only [ask, asked, of, ItemFields.plainHold, ItemFields.energyHolds,
      ItemFields.wanted, Bool.true_and, Bool.and_assoc, Bool.and_comm, Bool.and_left_comm]

end ItemNumber

namespace BlockTest

variable {r : Registry} {object : Fields} {d : BlockDescriptor} {compiled : Compiled} {v : Json}
  {e : Expression}

theorem read_of_read_erase_energy (hget : object.get? "energy" = some v)
    (hread : BlockDescriptor.form.read (object.erase "energy") = .valid d) :
    BlockDescriptor.form.read object = .valid { d with energy := v } ∧ d.energy = .null := by
  have hthis : (Form.optional "energy" .null anything).read object = .valid v := by
    rw [Form.read_optional_anything, hget, Option.getD_some]
  obtain ⟨hblock, hproperties, hmod, henergy, hside, hcontains⟩ :=
    BlockDescriptor.read_form_iff.1 hread
  rw [Form.read_optional_erase_self] at henergy
  rw [Form.read_optional_erase (by decide)] at hblock hproperties hmod hside hcontains
  exact ⟨BlockDescriptor.read_form_iff.2 ⟨hblock, hproperties, hmod, hthis, hside, hcontains⟩,
    (Checked.valid.inj henergy).symm⟩

/-- The energy is one test more, behind those of the name and the namespace. -/
theorem exists_insert_energy (h : compileDescriptor r d = .ok compiled) (hnull : d.energy = .null)
    (he : Expression.ofJson v = .ok e) :
    ∃ side xs ys, Descriptor.onPart sideOf d.side = .ok side ∧ compiled.tests = xs ++ ys ∧
      compileDescriptor r { d with energy := v } =
        .ok ⟨xs ++ .energy e side :: ys, compiled.diagnostics⟩ := by
  obtain ⟨identity, side, energy, hidentity, hside, henergy, hcontents⟩ :=
    compileDescriptor_eq_ok_iff.1 h
  rw [hnull] at henergy
  cases henergy
  rw [withContents_eq_map] at hcontents
  obtain ⟨⟨wanted, diagnostics⟩, hwanted, rfl⟩ := Except.map_eq_ok_iff.1 hcontents
  refine ⟨side, identity.toList ++ (d.mod.map mod).toList, wanted, hside, by simp, ?_⟩
  rw [compileDescriptor_eq_ok_iff]
  refine ⟨identity, side, some e, hidentity, hside, Expression.optional_of_ofJson he, ?_⟩
  have hsame : withContents r [] side { d with energy := v } = withContents r [] side d := rfl
  rw [withContents_eq_map, hsame, hwanted]
  simp [Except.map]

end BlockTest

/-- With the value for one of its numbers an item compiles if it does without it, and asks besides
for such a number. -/
def AsksOfItems (v : Json) (P : ℤ → Prop) : Prop :=
  ∀ (r : Registry) (k : ItemNumber) (object : Fields) (t : ItemTest),
    object.get? k.name = some v → ItemTest.compile r (.obj (object.erase k.name)) = .ok t →
      ∃ t', ItemTest.compile r (.obj object) = .ok t' ∧
        ∀ s : ItemStack, (∃ b, t.holds s = .ok b) →
          Except.Decides (t'.holds s) (t.holds s = .ok true ∧ P (k.of s))

/-- With the value for its energy a block compiles if it does without it, and asks besides for such
an energy on its side. -/
def AsksOfBlocks (v : Json) (P : ℤ → Prop) : Prop :=
  ∀ (r : Registry) (object : Fields) (c : BlockTest.Compiled), object.get? "energy" = some v →
    BlockTest.compile r (.obj (object.erase "energy")) = .ok c →
      ∃ d side tests, BlockDescriptor.form.read object = .valid d ∧
        Descriptor.onPart BlockTest.sideOf d.side = .ok side ∧
        BlockTest.compile r (.obj object) = .ok ⟨tests, c.diagnostics⟩ ∧
        ∀ (w : World) (pos : BlockPos), (∃ b, BlockTest.allHold w pos c.tests = .ok b) →
          Except.Decides (BlockTest.allHold w pos tests)
            (BlockTest.allHold w pos c.tests = .ok true ∧ P (BlockTest.exposedEnergy w pos side))

/-- With the value a tag compiles, and asks for such a number under its name. -/
def AsksOfTags (v : Json) (P : ℤ → Prop) : Prop :=
  ∀ (depth : Nat) (object : Fields) (name : Text), object.get? "tag" = some (.str name) →
    object.get? "value" = some v →
      (∀ nested, object.get? "contains" = some nested → nested = .null) →
        ∃ d t, TagDescriptor.Reads depth (.obj object) d ∧ TagTest.compile d = .ok t ∧
          ∀ (compound : Fields) (n : ℤ), TagTest.integerAt compound name = .ok n →
            Except.Decides (t.holds compound) (P n)

/-- A value asks for the same in every field that takes a number. -/
structure AsksFor (v : Json) (P : ℤ → Prop) : Prop where
  item : AsksOfItems v P
  block : AsksOfBlocks v P
  tag : AsksOfTags v P

namespace AsksFor

variable {v : Json} {e : Expression} {P Q : ℤ → Prop}

theorem item_of_ofJson (he : Expression.ofJson v = .ok e) :
    AsksOfItems v fun n => e.holds n = true := by
  intro r k object t hget h
  obtain ⟨d, hread, f, hf, rfl⟩ := ItemTest.compileObject_eq_ok_iff.1 h
  obtain ⟨hread', hnull⟩ := ItemNumber.read_of_read_erase hget hread
  have hnone : k.asked f = none := by
    have hoptional := ItemNumber.optional_written (k := k) hf
    rw [hnull] at hoptional
    exact (Except.ok.inj hoptional).symm
  have hf' := ItemNumber.compiledFrom_ask (k := k) hf he
  refine ⟨_, ItemTest.compileObject_eq_ok_iff.2 ⟨_, hread', _, hf', rfl⟩, ?_⟩
  rintro s ⟨b, hb⟩
  refine ⟨_, ItemNumber.holds_ask hnone hb, ?_⟩
  rw [hb, Bool.and_eq_true, Except.ok.injEq]

theorem block_of_ofJson (he : Expression.ofJson v = .ok e) :
    AsksOfBlocks v fun n => e.holds n = true := by
  intro r object c hget h
  obtain ⟨d, hread, hcompile⟩ := BlockTest.compileObject_eq_ok_iff.1 h
  obtain ⟨hread', hnull⟩ := BlockTest.read_of_read_erase_energy hget hread
  obtain ⟨side, xs, ys, hside, htests, hcompile'⟩ :=
    BlockTest.exists_insert_energy hcompile hnull he
  refine ⟨_, side, _, hread', hside,
    BlockTest.compileObject_eq_ok_iff.2 ⟨_, hread', hcompile'⟩, ?_⟩
  intro w pos hanswers
  rw [htests] at hanswers ⊢
  cases hloaded : w.isLoaded pos.chunk with
  | false =>
    have hfalse := BlockTest.allHold_of_not_isLoaded hloaded
    exact ⟨false, hfalse _, by simp [hfalse]⟩
  | true =>
    rw [BlockTest.allHold_of_isLoaded hloaded] at hanswers ⊢
    rw [BlockTest.allHold_of_isLoaded hloaded]
    refine Except.decides_allM_insert hanswers ⟨_, rfl, ?_⟩
    rw [BlockTest.getD_energyStored]

theorem tag_of_ofJson (he : Expression.ofJson v = .ok e) :
    AsksOfTags v fun n => e.holds n = true := by
  intro depth object name htag hvalue hnested
  have hcontains : TagDescriptor.ReadsList depth (object.get? "contains") none := by
    cases hget : object.get? "contains" with
    | none => exact .absent
    | some nested =>
      obtain rfl := hnested nested hget
      exact .null
  have hread : TagDescriptor.Reads depth (.obj object) ⟨name, v, none⟩ :=
    TagDescriptor.reads_iff.2 ⟨object, rfl, htag, by rw [hvalue, Option.getD_some], hcontains⟩
  refine ⟨_, .value name e, hread, TagTest.compile_value_eq_ok_iff.2 ⟨e, he, rfl⟩, ?_⟩
  intro compound n hn
  refine ⟨e.holds n, ?_, Iff.rfl⟩
  rw [TagTest.holds, hn]
  rfl

theorem of_ofJson (he : Expression.ofJson v = .ok e) : AsksFor v fun n => e.holds n = true where
  item := item_of_ofJson he
  block := block_of_ofJson he
  tag := tag_of_ofJson he

theorem congr (h : AsksFor v P) (hPQ : ∀ n, P n ↔ Q n) : AsksFor v Q := by
  obtain rfl : P = Q := funext fun n => propext (hPQ n)
  exact h

/-- One tag is enough to find out what a value asks for. -/
theorem unique (h : AsksFor v P) (h' : AsksFor v Q) (n : ℤ) : P n ↔ Q n := by
  let object : Fields := [("tag", .str "n"), ("value", v)]
  have htag : object.get? "tag" = some (.str "n") := rfl
  have hvalue : object.get? "value" = some v := rfl
  have hbare : ∀ nested, object.get? "contains" = some nested → nested = .null := nofun
  obtain ⟨d, t, hread, ht, hdecides⟩ := h.tag 0 object "n" htag hvalue hbare
  obtain ⟨d', t', hread', ht', hdecides'⟩ := h'.tag 0 object "n" htag hvalue hbare
  obtain rfl := hread.unique hread'
  cases ht.symm.trans ht'
  have hn : TagTest.integerAt [("n", .int n)] "n" = .ok n := rfl
  exact (hdecides _ n hn).eq_true_iff.symm.trans (hdecides' _ n hn).eq_true_iff

theorem towardZero_of_rational? {q : ℚ} (h : v.rational? = some q) :
    AsksFor v (· = towardZero q) := by
  refine (of_ofJson (Expression.ofJson_of_rational? h)).congr fun n => ?_
  rw [Expression.holds, Comparison.holds, decide_eq_true_iff]

/-- A number asks for the integer that is left when its fraction is cut off. So it asks for itself
exactly if it is whole. -/
theorem of_number {q : ℚ} (h : v.rational? = some q) :
    AsksFor v (· = towardZero q) ∧
      (AsksFor v (fun n => (n : ℚ) = q) ↔ ∃ m : ℤ, (m : ℚ) = q) := by
  have hasks := towardZero_of_rational? h
  refine ⟨hasks, fun hself => ?_, ?_⟩
  · exact ⟨towardZero q, (hasks.unique hself (towardZero q)).1 rfl⟩
  · rintro ⟨m, rfl⟩
    refine hasks.congr fun n => ?_
    rw [towardZero_intCast, Int.cast_inj]

theorem of_number_two :
    (Json.float (.ofRatio false 2 1)).rational? = some 2 ∧
      AsksFor (.float (.ofRatio false 2 1)) fun n => (n : ℚ) = 2 := by
  have htwo : (Json.float (.ofRatio false 2 1)).rational? = some 2 := by decide +kernel
  exact ⟨htwo, (of_number htwo).2.2 ⟨2, rfl⟩⟩

def oneAndHalf : Json :=
  .float (.finite false 6755399441055744 (-52))

def oneAndHalfSticks : Fields :=
  [("item", .str "stick"), ("count", oneAndHalf)]

/-- One stick passes for one and a half. -/
theorem oneAndHalf_accepts_one :
    oneAndHalf.rational? = some (3 / 2) ∧
    (∃ t, ItemTest.compile (.build ["stick"] [] []) (.obj oneAndHalfSticks) = .ok t ∧
      t.holds { item := "minecraft:stick", count := 1 } = .ok true) ∧
    ¬ AsksFor oneAndHalf fun n => (n : ℚ) = 3 / 2 := by
  have hvalue : oneAndHalf.rational? = some (3 / 2) := by decide +kernel
  refine ⟨hvalue, ⟨_, rfl, rfl⟩, fun hasks => ?_⟩
  have hget : oneAndHalfSticks.get? "count" = some oneAndHalf := rfl
  have hstick : ItemTest.compile (.build ["stick"] [] []) (.obj (oneAndHalfSticks.erase "count")) =
      .ok (.fields { item := some "minecraft:stick" }) := rfl
  obtain ⟨t, ht, hdecides⟩ := hasks.item _ .count _ _ hget hstick
  cases ht
  have hcount := hdecides { item := "minecraft:stick", count := 1 } ⟨true, rfl⟩
  have hone : ((1 : ℤ) : ℚ) = 3 / 2 := (hcount.eq_true_iff.1 rfl).2
  norm_num at hone

end AsksFor
end RuleGate
