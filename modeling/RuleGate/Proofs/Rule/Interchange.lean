import RuleGate.Proofs.Descriptor.Settled
import RuleGate.Proofs.Rule.Fields
import RuleGate.Proofs.Rule.Parts
import RuleGate.Rule.Match

/-!
# Descriptors as text and as values

A descriptor may be given as a value or as the text of that value. The text of an object comes to
what the object comes to. An array given as a value is a list of values, but its text is one value:
of items it is expanded when they are compiled, which gives the same tests as long as the members
are settled, and of blocks and offsets it is refused, unless it is an offset that is not looked at
(`Rule.compile_text`).
-/

namespace RuleGate

open Descriptor (decode Settled)

theorem AttributeType.exists_json? {t : AttributeType} (ht : t = .json) (v : Json) :
    ∃ x, t.shape v = .valid x ∧ t.json? x = some v := by
  subst ht
  exact ⟨v, rfl, rfl⟩

theorem Key.descriptor_cases {k : Key} (hk : k.type = .json) :
    (∃ f, k.itemCheck? = some f) ∨ k = .block ∨ k = .blockOffset := by
  revert hk
  cases k <;> simp [Key.type, Key.itemCheck?]

namespace RuleAttributes

variable {k : Key}

theorem readAll_json (hk : k.type = .json) (vs : List Json) :
    ∃ xs, readAll k vs = .ok xs ∧ xs.filterMap k.type.json? = vs := by
  induction vs with
  | nil => exact ⟨[], rfl, rfl⟩
  | cons v rest ih =>
    obtain ⟨xs, hrest, hxs⟩ := ih
    obtain ⟨x, hx, hjson⟩ := AttributeType.exists_json? hk v
    refine ⟨x :: xs, ?_, ?_⟩
    · rw [readAll, hx, hrest]
      rfl
    · rw [List.filterMap_cons_some hjson, hxs]

/-- The descriptors that a field gives to a key. -/
def givenDescriptors (k : Key) (field : Text × Json) : List Json :=
  if Key.ofName? field.1 = some k then itemsOf field.2 else []

theorem filterMap_json?_given (hk : k.type = .json) (field : Text × Json) :
    (given k field).filterMap k.type.json? = givenDescriptors k field := by
  unfold given givenDescriptors
  obtain ⟨xs, hread, hxs⟩ := readAll_json hk (itemsOf field.2)
  split
  · rw [valuesOf, hread]
    exact hxs
  · rfl

theorem described_ofFields (hk : k.type = .json) (fields : Fields) :
    (ofFields fields).1.described k = fields.flatMap (givenDescriptors k) := by
  rw [described, getList_ofFields, List.filterMap_flatMap]
  exact congrArg (fields.flatMap ·) (funext (filterMap_json?_given hk))

theorem described_ofField (hk : k.type = .json) {name : Text} (hname : Key.ofName? name = some k)
    (v : Json) : (ofFields [(name, v)]).1.described k = itemsOf v := by
  rw [described_ofFields hk, List.flatMap_singleton]
  exact if_pos hname

theorem has_ofField_of_ne {name : Text} (hname : Key.ofName? name = some k) {k' : Key}
    (hne : k' ≠ k) (v : Json) : (ofFields [(name, v)]).1.has k' = false := by
  have hnil : (ofFields [(name, v)]).1.getList k' = [] := by
    rw [getList_ofFields, List.flatMap_singleton]
    exact given_of_name_ne fun h => hne (Option.some.inj (h.symm.trans hname))
  rw [← Bool.not_eq_true, Attributes.has_eq_true_iff, not_not, hnil]

end RuleAttributes

namespace Check

variable (r : Registry)

theorem blocksOf_congr {v w : Json} (h : BlockTest.compile r v = BlockTest.compile r w)
    (xs ys : List Json) : blocksOf r (xs ++ v :: ys) = blocksOf r (xs ++ w :: ys) := by
  induction xs with
  | nil => simp only [List.nil_append, blocksOf, h]
  | cons x rest ih => simp only [List.cons_append, blocksOf, ih]

theorem offsetOf_congr {v w : Json} (h : Offset.compile v = Offset.compile w)
    (xs ys : List Json) : offsetOf (xs ++ v :: ys) = offsetOf (xs ++ w :: ys) := by
  cases xs with
  | nil => simp only [List.nil_append, offsetOf, h]
  | cons x rest => rfl

theorem offsetOf_append {xs : List Json} (h : xs ≠ []) (ys : List Json) :
    offsetOf (xs ++ ys) = offsetOf xs := by
  cases xs with
  | nil => exact absurd rfl h
  | cons x rest => rfl

end Check

theorem BlockTest.compile_str_of_obj {r : Registry} {t : Text} {fields : Fields}
    (ht : decode (.str t) = .ok (.obj fields)) :
    compile r (.str t) = compile r (.obj fields) := by
  simp only [compile, ht]
  rfl

theorem BlockTest.compile_str_of_arr {r : Registry} {t : Text} {es : List Json}
    (ht : decode (.str t) = .ok (.arr es)) :
    compile r (.str t) = .error (.compile (.wrongKind .block (.str t))) := by
  simp only [compile, ht]
  rfl

theorem Offset.compile_str_of_obj {t : Text} {fields : Fields}
    (ht : decode (.str t) = .ok (.obj fields)) : compile (.str t) = compile (.obj fields) := by
  simp only [compile, ht]
  rfl

theorem Offset.compile_str_of_arr {t : Text} {es : List Json}
    (ht : decode (.str t) = .ok (.arr es)) :
    compile (.str t) = .error (.compile (.wrongKind .offset (.arr es))) := by
  simp only [compile, ht]
  rfl

namespace ItemTest

theorem testsOfAll_str_of_obj {r : Registry} {t : Text} {fields : Fields}
    (ht : decode (.str t) = .ok (.obj fields)) :
    testsOfAll r [.str t] = testsOfAll r [.obj fields] := by
  simp only [testsOfAll, compileAll_singleton, compileExpanded, ht]
  rfl

theorem testsOfAll_str_of_arr {r : Registry} {t : Text} {es : List Json}
    (ht : decode (.str t) = .ok (.arr es)) (hes : ∀ e ∈ es, Settled e) :
    testsOfAll r [.str t] = testsOfAll r es := by
  rw [testsOfAll_of_settled r hes, testsOfAll, compileAll_singleton]
  simp only [compileExpanded, ht]

end ItemTest

namespace Rule

variable (r : Registry) (i : Integrations)

theorem compile_ofField {k : Key} (hk : k ≠ .blockOffset) {name : Text}
    (hname : Key.ofName? name = some k) (v : Json) :
    compile r i (RuleAttributes.ofFields [(name, v)]).1 =
      (compileKey r i (RuleAttributes.ofFields [(name, v)]).1 k).map fun o =>
        ((o.check.map (CompiledCheck.mk k)).toList, o.diagnostics) :=
  compile_of_alone r i _ (Key.mem_checkOrder.2 hk) fun _ _ hne =>
    RuleAttributes.has_ofField_of_ne hname hne v

theorem map_check_compileKey {k : Key} {f : List ItemTest → Check} (hf : k.itemCheck? = some f)
    (a : RuleAttributes) : (compileKey r i a k).map Outcome.check =
      if (missing? i k).isSome then .ok none
      else (ItemTest.testsOfAll r (a.described k)).map fun tests =>
        if tests.isEmpty then none else some (f tests) := by
  by_cases hhas : a.has k
  · cases hmissing : missing? i k with
    | some c =>
      rw [compileKey_of_missing r i a hhas hmissing]
      rfl
    | none =>
      rw [compileKey_of_not_missing r i a hhas hmissing, Check.compile_of_itemCheck? r a hf,
        Check.compileItems, ItemTest.testsOfAll]
      cases ItemTest.compileAll r (a.described k) <;> rfl
  · have hnil : a.getList k = [] := not_not.1 fun hne => hhas (Attributes.has_eq_true_iff.2 hne)
    rw [compileKey_of_not_has r i a (Bool.eq_false_iff.2 hhas), RuleAttributes.described, hnil]
    cases (missing? i k).isSome <;> rfl

theorem filter_checkOf (a : RuleAttributes) (k k' : Key) :
    (checkOf r i a k').filter (fun c => c.key ≠ k) = if k' = k then [] else checkOf r i a k' := by
  unfold checkOf
  cases (outcome r i a k').check with
  | none => simp
  | some c => by_cases hk : k' = k <;> simp [hk]

/-- Two rules that agree on all keys but one, of which the first does without that key. -/
theorem eq_filter_of_agree {a b : RuleAttributes} {rule rule' : Rule}
    {reported reported' : List Diagnostic} (ha : compile r i a = .ok (rule, reported))
    (hb : compile r i b = .ok (rule', reported')) {k : Key} (hkeys : k ∉ rule.keys)
    (hagree : ∀ k' ∈ Key.checkOrder, k' ≠ k → compileKey r i a k' = compileKey r i b k') :
    rule = rule'.filter fun c => c.key ≠ k := by
  have hnone (hk : k ∈ Key.checkOrder) : checkOf r i a k = [] := by
    rw [mem_keys_iff ha hk, Option.not_isSome_iff_eq_none] at hkeys
    rw [checkOf, hkeys]
    rfl
  obtain ⟨_, hrule, _⟩ := (compile_eq_ok_iff r i a).1 ha
  obtain ⟨_, hrule', _⟩ := (compile_eq_ok_iff r i b).1 hb
  rw [hrule, hrule', List.filter_flatMap]
  apply List.flatMap_congr
  intro k' hk'
  rw [filter_checkOf]
  split
  case isTrue heq => exact heq ▸ hnone (heq ▸ hk')
  case isFalse hne =>
    unfold checkOf outcome
    rw [hagree k' hk' hne]

/-- A rule that has a value under a name, among other fields. -/
def holding (before after : Fields) (name : Text) (v : Json) : RuleAttributes :=
  (RuleAttributes.ofFields (before ++ (name, v) :: after)).1

section Holding

open RuleAttributes

variable {before after : Fields} {name : Text} {k : Key} (hname : Key.ofName? name = some k)
include hname

theorem getList_holding_of_ne {k' : Key} (hne : k' ≠ k) (v w : Json) :
    (holding before after name v).getList k' = (holding before after name w).getList k' := by
  have hnil (v : Json) : given k' (name, v) = [] :=
    given_of_name_ne fun h => hne (Option.some.inj (h.symm.trans hname))
  simp only [holding, getList_ofFields, List.flatMap_append, List.flatMap_cons, hnil]

theorem described_holding (hk : k.type = .json) (v : Json) :
    (holding before after name v).described k = before.flatMap (givenDescriptors k) ++
      (itemsOf v ++ after.flatMap (givenDescriptors k)) := by
  have hself : givenDescriptors k (name, v) = itemsOf v := if_pos hname
  rw [holding, described_ofFields hk, List.flatMap_append, List.flatMap_cons, hself]

end Holding

/-- Values that mean the same as text: objects, and of items also arrays of settled members. -/
def Interchangeable (k : Key) : Json → Prop
  | .obj _ => True
  | .arr es => k.itemCheck?.isSome ∧ ∀ e ∈ es, Settled e
  | _ => False

/-- Of several offsets the first counts, so that no other is looked at. -/
def Overridden (k : Key) (before : Fields) : Prop :=
  k = .blockOffset ∧ before.flatMap (RuleAttributes.givenDescriptors .blockOffset) ≠ []

theorem testsOfAll_interchange {k : Key} {t : Text} {v : Json} (ht : decode (.str t) = .ok v)
    (hv : Interchangeable k v) :
    ItemTest.testsOfAll r [.str t] = ItemTest.testsOfAll r (RuleAttributes.itemsOf v) := by
  cases v with
  | obj fields => exact ItemTest.testsOfAll_str_of_obj ht
  | arr es => exact ItemTest.testsOfAll_str_of_arr ht hv.2
  | _ => exact hv.elim

section Interchange

open RuleAttributes (itemsOf givenDescriptors)

variable {before after : Fields} {name t : Text} {k : Key} {v : Json}

theorem map_check_compileKey_items (hname : Key.ofName? name = some k) (hk : k.type = .json)
    {f : List ItemTest → Check} (hf : k.itemCheck? = some f) (ht : decode (.str t) = .ok v)
    (hv : Interchangeable k v) :
    (compileKey r i (holding before after name (.str t)) k).map Outcome.check =
      (compileKey r i (holding before after name v) k).map Outcome.check := by
  have hitems : itemsOf (.str t) = [.str t] := rfl
  rw [map_check_compileKey r i hf, map_check_compileKey r i hf, described_holding hname hk,
    described_holding hname hk, hitems]
  simp only [ItemTest.testsOfAll_append, testsOfAll_interchange r ht hv]

theorem compileKey_block_text (hname : Key.ofName? name = some .block) {fields : Fields}
    (ht : decode (.str t) = .ok (.obj fields)) :
    compileKey r i (holding before after name (.str t)) .block =
      compileKey r i (holding before after name (.obj fields)) .block := by
  have hoffset : (holding before after name (.str t)).described .blockOffset =
      (holding before after name (.obj fields)).described .blockOffset := by
    rw [RuleAttributes.described, getList_holding_of_ne hname (by simp) (.str t) (.obj fields)]
    rfl
  have hblocks := Check.blocksOf_congr r (BlockTest.compile_str_of_obj ht)
    (before.flatMap (givenDescriptors .block)) (after.flatMap (givenDescriptors .block))
  have hne (v : Json) : (before.flatMap (givenDescriptors .block) ++
      v :: after.flatMap (givenDescriptors .block)).isEmpty = false := by simp
  rw [compileKey_block, compileKey_block, hoffset, described_holding hname rfl,
    described_holding hname rfl]
  simp only [itemsOf, List.singleton_append, hne, Check.blocksAt, hblocks]

/-- A value of `blockoffset` is read as an offset, if at all. -/
theorem compileKey_block_of_offset (hname : Key.ofName? name = some .blockOffset) {v w : Json}
    (h : Check.offsetOf ((holding before after name v).described .blockOffset) =
      Check.offsetOf ((holding before after name w).described .blockOffset)) :
    compileKey r i (holding before after name v) .block =
      compileKey r i (holding before after name w) .block := by
  have hblock : (holding before after name v).described .block =
      (holding before after name w).described .block := by
    rw [RuleAttributes.described, getList_holding_of_ne hname (by simp) v w]
    rfl
  rw [compileKey_block, compileKey_block, hblock]
  simp only [Check.blocksAt, h]

theorem compileKey_block_offset_text (hname : Key.ofName? name = some .blockOffset)
    {fields : Fields} (ht : decode (.str t) = .ok (.obj fields)) :
    compileKey r i (holding before after name (.str t)) .block =
      compileKey r i (holding before after name (.obj fields)) .block := by
  apply compileKey_block_of_offset r i hname
  rw [described_holding hname rfl, described_holding hname rfl]
  exact Check.offsetOf_congr (Offset.compile_str_of_obj ht) _ _

theorem compileKey_block_overridden (hname : Key.ofName? name = some .blockOffset)
    (hbefore : before.flatMap (givenDescriptors .blockOffset) ≠ []) (v w : Json) :
    compileKey r i (holding before after name v) .block =
      compileKey r i (holding before after name w) .block := by
  apply compileKey_block_of_offset r i hname
  rw [described_holding hname rfl, described_holding hname rfl, Check.offsetOf_append hbefore,
    Check.offsetOf_append hbefore]

/-- Other keys do not read the value, save that `block` reads those of `blockoffset`. -/
theorem compileKey_holding_of_ne (hname : Key.ofName? name = some k) (v w : Json) {k' : Key}
    (hne : k' ≠ k) (hoffset : k' = .block → k ≠ .blockOffset) :
    compileKey r i (holding before after name v) k' =
      compileKey r i (holding before after name w) k' :=
  compileKey_congr r i _ (getList_holding_of_ne hname hne v w) fun hblock =>
    getList_holding_of_ne hname (hoffset hblock).symm v w

theorem map_check_compileKey_holding (hname : Key.ofName? name = some k) (hk : k.type = .json)
    (ht : decode (.str t) = .ok v) (hv : Interchangeable k v ∨ Overridden k before) {k' : Key}
    (hk' : k' ∈ Key.checkOrder) :
    (compileKey r i (holding before after name (.str t)) k').map Outcome.check =
      (compileKey r i (holding before after name v) k').map Outcome.check := by
  by_cases hsame : k' = k
  · subst hsame
    have hoffset : k' ≠ .blockOffset := Key.mem_checkOrder.1 hk'
    replace hv : Interchangeable k' v := hv.resolve_right fun h => hoffset h.1
    rcases Key.descriptor_cases hk with ⟨f, hf⟩ | rfl | rfl
    · exact map_check_compileKey_items r i hname hk hf ht hv
    · cases v with
      | obj fields => rw [compileKey_block_text r i hname ht]
      | arr es => cases hv.1
      | _ => exact hv.elim
    · exact absurd rfl hoffset
  · by_cases hblock : k' = .block ∧ k = .blockOffset
    · obtain ⟨rfl, rfl⟩ := hblock
      rcases hv with hv | ⟨_, hbefore⟩
      · cases v with
        | obj fields => rw [compileKey_block_offset_text r i hname ht]
        | arr es => cases hv.1
        | _ => exact hv.elim
      · rw [compileKey_block_overridden r i hname hbefore]
    · rw [compileKey_holding_of_ne r i hname (.str t) v hsame fun hb ho => hblock ⟨hb, ho⟩]

theorem block_of_mem_keys {a : RuleAttributes} {rule : Rule} {reported : List Diagnostic}
    (h : compile r i a = .ok (rule, reported)) (hmem : .block ∈ rule.keys) :
    (∃ offset, Check.offsetOf (a.described .blockOffset) = .ok offset) ∧
      ∀ raw ∈ a.described .block, ∃ compiled, BlockTest.compile r raw = .ok compiled := by
  have horder : Key.block ∈ Key.checkOrder := by decide
  have hkey := compileKey_eq_ok h horder
  rcases ho : outcome r i a .block with ⟨check, diagnostics⟩
  rw [ho] at hkey
  have hcheck : check.isSome := by
    rw [mem_keys_iff h horder, ho] at hmem
    exact hmem
  obtain ⟨c, rfl⟩ := Option.isSome_iff_exists.1 hcheck
  obtain ⟨_, _, hmakes⟩ := (makes_compileKey_iff r i a).1 ⟨diagnostics, hkey⟩
  have hblocks :
      Check.Makes (Check.blocksAt r (a.described .blockOffset) (a.described .block)) c := by
    rw [← Check.compileBlocks_eq]
    exact hmakes
  obtain ⟨offset, hoffset, hall, _⟩ := (Check.makes_blocksAt_iff r).1 hblocks
  exact ⟨⟨offset, hoffset⟩, hall⟩

theorem not_mem_keys_of_str_of_arr (hname : Key.ofName? name = some k) {es : List Json}
    (ht : decode (.str t) = .ok (.arr es))
    (hk : k = .block ∨ k = .blockOffset) (hread : ¬ Overridden k before) {rule : Rule}
    {reported : List Diagnostic}
    (h : compile r i (holding before after name (.str t)) = .ok (rule, reported)) :
    .block ∉ rule.keys := by
  intro hmem
  obtain ⟨⟨offset, hoffset⟩, hall⟩ := block_of_mem_keys r i h hmem
  rcases hk with rfl | rfl
  · rw [described_holding hname rfl] at hall
    obtain ⟨compiled, hcompiled⟩ := hall (.str t) (by simp [itemsOf])
    rw [BlockTest.compile_str_of_arr ht] at hcompiled
    cases hcompiled
  · have hnone : before.flatMap (givenDescriptors .blockOffset) = [] :=
      not_not.1 fun hne => hread ⟨rfl, hne⟩
    rw [described_holding hname rfl, hnone] at hoffset
    simp only [itemsOf, List.nil_append, List.singleton_append, Check.offsetOf,
      Offset.compile_str_of_arr ht] at hoffset
    cases hoffset

/-- The text of a value comes to the rule of the value, or to that rule without its blocks. -/
theorem compile_text (hname : Key.ofName? name = some k) (hk : k.type = .json)
    (ht : decode (.str t) = .ok v) :
    (Interchangeable k v ∨ Overridden k before →
      (compile r i (holding before after name (.str t))).map Prod.fst =
        (compile r i (holding before after name v)).map Prod.fst) ∧
    ∀ es, v = .arr es → k = .block ∨ k = .blockOffset → ¬ Overridden k before →
      ∀ rule reported rule' reported',
        compile r i (holding before after name (.str t)) = .ok (rule, reported) →
        compile r i (holding before after name v) = .ok (rule', reported') →
          rule = rule'.filter fun c => c.key ≠ .block := by
  constructor
  · intro hv
    exact map_fst_compileKeys_congr r i _ fun k' hk' =>
      map_check_compileKey_holding r i hname hk ht hv hk'
  · rintro es rfl hblock hread rule reported rule' reported' h h'
    refine eq_filter_of_agree r i h h'
      (not_mem_keys_of_str_of_arr r i hname ht hblock hread h) ?_
    intro k' hk' hne
    have hne' : k' ≠ k := by
      rintro rfl
      rcases hblock with hb | ho
      · exact hne hb
      · exact Key.mem_checkOrder.1 hk' ho
    exact compileKey_holding_of_ne r i hname _ _ hne' fun hb => absurd hb hne

end Interchange

def heldText : Text := "[\x7b\"empty\": false\x7d, \"stick\"]"

def heldItems : List Json :=
  [.obj [("empty", .bool false)], .str "stick"]

theorem compile_text_held :
    (Key.ofName? "helditem" = some .heldItem ∧ Key.heldItem.type = .json ∧
      decode (.str heldText) = .ok (.arr heldItems) ∧ Interchangeable .heldItem (.arr heldItems)) ∧
    (compile ⟨["minecraft:stick"], [], []⟩ .absent
        (holding [] [] "helditem" (.str heldText))).map Prod.fst =
      (compile ⟨["minecraft:stick"], [], []⟩ .absent
        (holding [] [] "helditem" (.arr heldItems))).map Prod.fst :=
  have htext : decode (.str heldText) = .ok (.arr heldItems) := by with_unfolding_all rfl
  have hsettled : Interchangeable .heldItem (.arr heldItems) :=
    ⟨rfl, List.forall_mem_cons.2 ⟨Descriptor.settled_obj _,
      List.forall_mem_singleton.2 (Descriptor.settled_name rfl)⟩⟩
  ⟨⟨rfl, rfl, htext, hsettled⟩, (compile_text _ _ rfl rfl htext).1 (.inl hsettled)⟩

/-- A list of one block, and the same list as text. -/
theorem compile_text_refused :
    decode (.str "[\"stone\"]") = .ok (.arr [.str "stone"]) ∧
    (∃ rule, compile ⟨[], [("minecraft:stone", [])], []⟩ .absent
        (holding [] [] "block" (.arr [.str "stone"])) = .ok (rule, []) ∧
      rule.keys = [.block] ∧ ∀ draw, rule.isMatch .absent {} draw = false) ∧
    ∃ reported, compile ⟨[], [("minecraft:stone", [])], []⟩ .absent
        (holding [] [] "block" (.str "[\"stone\"]")) = .ok ([], reported) ∧
      ∀ draw, isMatch .absent {} draw [] = true :=
  ⟨by with_unfolding_all rfl, ⟨_, rfl, rfl, fun _ => rfl⟩,
    ⟨[.omitted (.wrongKind .block (.str "[\"stone\"]"))], by with_unfolding_all rfl,
      fun _ => rfl⟩⟩

end Rule
end RuleGate
