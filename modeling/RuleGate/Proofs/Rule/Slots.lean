import RuleGate.Proofs.Rule.Answers
import RuleGate.Proofs.Rule.Interchange
import RuleGate.Proofs.Rule.Matching
import RuleGate.Proofs.Rule.Store
import RuleGate.Proofs.Search

/-!
# Keys that stand for several places

A trinket is what is worn in any place for baubles, what is in both hands is what is in one of them,
and what the player holds is what is in the main hand (`Key.parts`). All keys of items make the same
tests of the same descriptors, and the stacks that one looks at are those of its parts, one part
after another (`Key.looksAt_eq_flatMap`). So a rule that asks for items under one of these keys
matches where the rule that asks for them under one of its parts does (`Rule.isMatch_parts`).
-/

namespace RuleGate

namespace Key

/-- The keys among which a key of items asks for one. -/
def parts : Key → List Key
  | .trinket => [.amulet, .ring, .belt, .head, .body, .charm]
  | .bothHandsItem => [.offHandItem, .heldItem]
  | .playerHeldItem => [.heldItem]
  | k => [k]

variable (i : Integrations) (e : Event)

/-- The stacks that a key of items looks at, whatever is asked of them. -/
def looksAt (k : Key) : List ItemStack :=
  (k.itemCheck?.map fun make => (make []).looksAt i e).getD []

variable {k : Key} {make : List ItemTest → Check}

theorem isSome_itemCheck?_of_mem_parts (hk : k.itemCheck?.isSome) {k' : Key} (h : k' ∈ k.parts) :
    k'.itemCheck?.isSome := by
  revert k'
  cases k <;> simp_all [parts, itemCheck?]

theorem looksAt_eq_flatMap (k : Key) : k.looksAt i e = k.parts.flatMap (looksAt i e) := by
  obtain ⟨world, pos, player, blockPos⟩ := e
  cases k
  -- with and without a player, the places of the one are those of the others in a row
  case trinket => cases i <;> cases player <;> rfl
  case bothHandsItem => cases player <;> rfl
  all_goals exact (List.flatMap_singleton ..).symm

theorem holds_of_itemCheck? (h : k.itemCheck? = some make) (draw : Number)
    (tests : List ItemTest) :
    (make tests).holds i e draw = Check.stacksHold tests (k.looksAt i e) := by
  have hequipment (slots : List EquipmentSlot) : Check.equipmentHolds slots tests e =
      Check.stacksHold tests ((Check.equipment slots []).looksAt i e) := by
    unfold Check.equipmentHolds Check.looksAt
    cases e.player <;> rfl
  have hbauble (slot : BaubleSlot) : Check.baubleHolds i slot tests e =
      Check.stacksHold tests ((Check.bauble slot []).looksAt i e) := by
    unfold Check.baubleHolds Check.looksAt
    cases e.player <;> rfl
  cases k <;> cases h
  case helmet | chestplate | leggings | boots | playerHeldItem | heldItem | offHandItem
    | bothHandsItem => exact hequipment _
  all_goals exact hbauble _

theorem type_of_itemCheck? (h : k.itemCheck? = some make) : k.type = .json := by
  cases k <;> cases h <;> rfl

theorem ofName?_name (k : Key) : ofName? k.name = some k := by
  have hall : ∀ k ∈ all, Text.lower (Text.strip k.name) = k.name := by decide +kernel
  exact ofName?_eq_some_iff.2 (hall k k.mem_all)

theorem isAny_looksAt {tests : List ItemTest}
    (h : ∀ k' ∈ k.parts, ∃ b, Check.stacksHold tests (k'.looksAt i e) = .ok b) :
    Except.IsAny (Check.stacksHold tests (k.looksAt i e))
      (k.parts.map fun k' => Check.stacksHold tests (k'.looksAt i e)) := by
  have hany := Except.isAny_anyM_flatten (List.forall_mem_map.2 h)
  rwa [← List.flatMap_def, ← looksAt_eq_flatMap, List.map_map] at hany

end Key

namespace Rule

open RuleAttributes

variable (r : Registry) (i : Integrations) (e : Event) (draw : Number)

/-- Every check of a rule has an answer. -/
def Answers (rule : Rule) : Prop :=
  ∀ c ∈ rule, ∃ b, c.check.holds i e draw = .ok b

def itemsUnder (k : Key) (vs : List Json) : RuleAttributes :=
  (ofFields [(k.name, .arr vs)]).1

/-- The rule of one key of items; without a test it has no check. -/
def ofTests (tests : List ItemTest) (k : Key) : Rule :=
  if tests.isEmpty then [] else (k.itemCheck?.map fun make => ⟨k, make tests⟩).toList

variable {k : Key} {tests : List ItemTest}

theorem compileKey_itemsUnder {make : List ItemTest → Check} (hmake : k.itemCheck? = some make)
    (hmissing : missing? i k = none) (vs : List Json) :
    compileKey r i (itemsUnder k vs) k = Check.compileItems r vs make := by
  have hdescribed : (itemsUnder k vs).described k = vs :=
    described_ofField (Key.type_of_itemCheck? hmake) k.ofName?_name (.arr vs)
  by_cases hhas : (itemsUnder k vs).has k
  · rw [compileKey_of_not_missing r i _ hhas hmissing, Check.compile_of_itemCheck? r _ hmake,
      hdescribed]
  · have hnil : vs = [] := by
      rw [Attributes.has_eq_true_iff, not_not] at hhas
      rw [← hdescribed, described, hhas]
      rfl
    rw [compileKey_of_not_has r i _ (Bool.eq_false_iff.2 hhas), hnil]
    rfl

theorem compile_itemsUnder {make : List ItemTest → Check} (hmake : k.itemCheck? = some make)
    (hmissing : missing? i k = none) (vs : List Json) :
    compile r i (itemsUnder k vs) =
      (ItemTest.compileAll r vs).map fun batch => (ofTests batch.tests k, batch.diagnostics) := by
  have hne : k ≠ .blockOffset := by
    rintro rfl
    cases hmake
  rw [itemsUnder, compile_ofField r i hne k.ofName?_name, ← itemsUnder,
    compileKey_itemsUnder r i hmake hmissing, Check.compileItems]
  cases ItemTest.compileAll r vs with
  | error f => rfl
  | ok batch =>
    have hcheck : ((if batch.tests.isEmpty then none else some (make batch.tests)).map
        (CompiledCheck.mk k)).toList = ofTests batch.tests k := by
      rw [ofTests, hmake]
      split <;> rfl
    exact congrArg (fun rule => Except.ok (rule, batch.diagnostics)) hcheck

theorem answers_ofTests_iff {make : List ItemTest → Check} (hmake : k.itemCheck? = some make)
    (hne : tests.isEmpty = false) : Answers i e draw (ofTests tests k) ↔
      ∃ b, Check.stacksHold tests (k.looksAt i e) = .ok b := by
  rw [Answers, ofTests, hne, hmake]
  simp [Key.holds_of_itemCheck? i e hmake]

theorem isMatch_ofTests_iff {make : List ItemTest → Check} (hmake : k.itemCheck? = some make)
    (hne : tests.isEmpty = false) : (ofTests tests k).isMatch i e draw ↔
      Check.stacksHold tests (k.looksAt i e) = .ok true := by
  rw [← Key.holds_of_itemCheck? i e hmake draw, ofTests, hne, hmake]
  exact isMatch_singleton_iff i e draw

theorem missing?_of_itemCheck? {t : IntegrationTables} (ht : .baubles ∈ t.capabilities)
    {make : List ItemTest → Check} (hmake : k.itemCheck? = some make) :
    missing? (.tables t) k = none := by
  cases k <;> cases hmake <;> simp [missing?, Key.capability?, Integrations.supports, ht]

/-- A rule of items under a key is a disjunction of the rules under its parts, and it has an answer
where these have. -/
structure AnyPart (rule : Key → Rule) (k : Key) : Prop where
  answers : (∀ k' ∈ k.parts, Answers i e draw (rule k')) → Answers i e draw (rule k)
  isMatch_eq : (∀ k' ∈ k.parts, Answers i e draw (rule k')) →
    (rule k).isMatch i e draw = k.parts.any fun k' => (rule k').isMatch i e draw

theorem anyPart_of_isEmpty (hempty : tests.isEmpty) (k : Key) :
    AnyPart i e draw (ofTests tests) k := by
  have hnil (k : Key) : ofTests tests k = [] := if_pos hempty
  refine ⟨fun _ => ?_, fun _ => ?_⟩
  · rw [hnil]
    exact List.forall_mem_nil _
  · simp only [hnil]
    cases k <;> rfl

theorem anyPart_ofTests (hk : k.itemCheck?.isSome) (tests : List ItemTest) :
    AnyPart i e draw (ofTests tests) k := by
  cases hempty : tests.isEmpty with
  | true => exact anyPart_of_isEmpty i e draw hempty k
  | false =>
    have hparts {k' : Key} (hk' : k' ∈ k.parts) : ∃ make, k'.itemCheck? = some make :=
      Option.isSome_iff_exists.1 (Key.isSome_itemCheck?_of_mem_parts hk hk')
    obtain ⟨make, hmake⟩ := Option.isSome_iff_exists.1 hk
    have hany (h : ∀ k' ∈ k.parts, Answers i e draw (ofTests tests k')) :
        Except.IsAny (Check.stacksHold tests (k.looksAt i e))
          (k.parts.map fun k' => Check.stacksHold tests (k'.looksAt i e)) := by
      refine Key.isAny_looksAt i e fun k' hk' => ?_
      obtain ⟨make', hmake'⟩ := hparts hk'
      exact (answers_ofTests_iff i e draw hmake' hempty).1 (h k' hk')
    refine ⟨fun h => ?_, fun h => ?_⟩
    · obtain ⟨b, hb, -⟩ := hany h
      exact (answers_ofTests_iff i e draw hmake hempty).2 ⟨b, hb⟩
    · obtain ⟨b, hb, hiff⟩ := hany h
      rw [Bool.eq_iff_iff, isMatch_ofTests_iff i e draw hmake hempty, hb, Except.ok.injEq, hiff,
        List.mem_map, List.any_eq_true]
      refine exists_congr fun k' => and_congr_right fun hk' => ?_
      obtain ⟨make', hmake'⟩ := hparts hk'
      exact (isMatch_ofTests_iff i e draw hmake' hempty).symm

/-- A list of descriptors compiles under all keys of items or under none. If it does, the rule under
each key is a disjunction of those under its parts. -/
theorem isMatch_parts {t : IntegrationTables} (ht : .baubles ∈ t.capabilities) (vs : List Json) :
    (∃ f, ∀ k : Key, k.itemCheck?.isSome →
      compile r (.tables t) (itemsUnder k vs) = .error f) ∨
    ∃ (rule : Key → Rule) (reported : List Diagnostic),
      (∀ k : Key, k.itemCheck?.isSome →
        compile r (.tables t) (itemsUnder k vs) = .ok (rule k, reported)) ∧
      ∀ k : Key, k.itemCheck?.isSome → ∀ e draw, AnyPart (.tables t) e draw rule k := by
  have hcompile (k : Key) (hk : k.itemCheck?.isSome) :
      compile r (.tables t) (itemsUnder k vs) = (ItemTest.compileAll r vs).map fun batch =>
        (ofTests batch.tests k, batch.diagnostics) := by
    obtain ⟨make, hmake⟩ := Option.isSome_iff_exists.1 hk
    exact compile_itemsUnder r _ hmake (missing?_of_itemCheck? ht hmake) vs
  cases hbatch : ItemTest.compileAll r vs with
  | error f =>
    refine .inl ⟨f, fun k hk => ?_⟩
    rw [hcompile k hk, hbatch]
    rfl
  | ok batch =>
    refine .inr ⟨ofTests batch.tests, batch.diagnostics, fun k hk => ?_, fun k hk e draw => ?_⟩
    · rw [hcompile k hk, hbatch]
      rfl
    · exact anyPart_ofTests (.tables t) e draw hk batch.tests

/-- A stick is worn where belts are. -/
def wornStick : IntegrationTables where
  capabilities := [.baubles]
  baubles := [("player", [(3, { item := "minecraft:stick" })])]

/-- Of two descriptors one compiles. -/
theorem isMatch_parts_stick :
    .baubles ∈ wornStick.capabilities ∧ ∃ (rule : Key → Rule) (reported : List Diagnostic),
      (∀ k : Key, k.itemCheck?.isSome → compile ⟨["minecraft:stick"], [], []⟩ (.tables wornStick)
        (itemsUnder k [.str "stick", .str "feather"]) = .ok (rule k, reported)) ∧
      ∀ k : Key, k.itemCheck?.isSome → ∀ e draw, AnyPart (.tables wornStick) e draw rule k := by
  have ht : .baubles ∈ wornStick.capabilities := List.mem_singleton_self _
  refine ⟨ht, (isMatch_parts ⟨["minecraft:stick"], [], []⟩ ht _).resolve_left ?_⟩
  rintro ⟨f, h⟩
  cases h .trinket rfl

end Rule
end RuleGate
