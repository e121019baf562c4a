import RuleGate.Proofs.Rule.Fields
import RuleGate.Proofs.Rule.Isolation
import RuleGate.Proofs.Rule.Parts
import RuleGate.Proofs.Search

/-!
# Lists of alternatives

Most keys read the first of their values. The others, those of dimensions, categories, biomes,
blocks and items, take all of them and ask for one (`Key.listsAlternatives`). Their checks are made
of parts: names, tests of a block, tests of items. What is made of the parts of several lists holds
if what is made of one of the lists does (`Check.Disjunctive`), although slots and stacks are gone
through on the outside and the parts on the inside, and a single name or block is asked by itself.
Compiling a list of values collects the parts that each value contributes (`Check.Assembles`), so
that a rule with a list of alternatives matches where the rule of one alternative does
(`Rule.isMatch_asking`).
-/

namespace RuleGate

namespace Check

variable (i : Integrations)

/-- What is made of several lists of parts together holds if what is made of one of them does,
provided that each of these has an answer. -/
def Disjunctive {α : Type} (make : List α → Check) : Prop :=
  ∀ e draw (parts : List (List α)), (∀ part ∈ parts, ∃ b, (make part).holds i e draw = .ok b) →
    Except.IsAny ((make parts.flatten).holds i e draw)
      (parts.map fun part => (make part).holds i e draw)

/-- A check that has one question for each part, of which one must be answered with yes. -/
theorem disjunctive_of_any {α : Type} {make : List α → Check} (asks : Event → α → Bool)
    (h : ∀ e draw names, (make names).holds i e draw = .ok (names.any (asks e))) :
    Disjunctive i make := by
  intro e draw parts _
  simp only [h, Except.isAny_ok, List.any_flatten, List.mem_map, Except.ok.injEq, List.any_eq_true]

theorem withWorld_any {α : Type} (e : Event) (names : List α) (test : World → α → Bool) :
    withWorld e (fun w => names.any (test w)) =
      names.any fun n => withWorld e fun w => test w n := by
  unfold withWorld
  cases e.world <;> simp

theorem withPlace_any {α : Type} (e : Event) (names : List α) (test : World → BlockPos → α → Bool) :
    withPlace e (fun w p => names.any (test w p)) =
      names.any fun n => withPlace e fun w p => test w p n := by
  unfold withPlace
  cases e.located <;> simp

theorem disjunctive_dimension : Disjunctive i dimension :=
  disjunctive_of_any i (fun e name => withWorld e fun w => w.dimension = name) fun e _ names => by
    rw [← withWorld_any]
    simp only [holds, isOneOf_eq]

theorem disjunctive_dimensionMod : Disjunctive i dimensionMod :=
  disjunctive_of_any i (fun e name => withWorld e fun w =>
      ResourceName.namespaceOf w.dimension = name) fun e _ names => by
    rw [← withWorld_any]
    simp only [holds, isOneOf_eq]

theorem disjunctive_category : Disjunctive i category :=
  disjunctive_of_any i (fun e name => withPlace e fun w p =>
      Text.lower (w.biomeAt p).category = name) fun e _ names => by
    rw [← withPlace_any]
    simp [holds, List.any_eq]

theorem disjunctive_biomeId : Disjunctive i biomeId :=
  disjunctive_of_any i (fun e name => withPlace e fun w p => (w.biomeAt p).id = name)
    fun e _ names => by
      rw [← withPlace_any]
      simp [holds, List.any_eq]

theorem disjunctive_biome : Disjunctive i biome :=
  disjunctive_of_any i (fun e name => withPlace e fun w p =>
      (w.biomeAt p).id = name || i.biomeName? (w.biomeAt p) = some name) fun e _ names => by
    rw [← withPlace_any]
    exact congrArg (Except.ok <| withPlace e ·) (funext₂ (biomeHolds_eq i names))

theorem disjunctive_block (offset : Option Offset) : Disjunctive i (block offset) := by
  intro e draw parts h
  cases hw : e.world with
  | none => simp [holds, blockHolds, hw, Except.isAny_ok]
  | some w =>
    cases hpos : blockPlace offset e with
    | none => simp [holds, blockHolds, hw, hpos, Except.isAny_ok]
    | some pos =>
      simp only [holds, blockHolds, hw, hpos, isOneOfBlocks_eq] at h ⊢
      exact Except.isAny_anyM_flatten h

/-- An empty stack is asked nothing, which is as good as to refuse it at every test. -/
theorem anyHolds_eq (tests : List ItemTest) (s : ItemStack) :
    ItemTest.anyHolds tests s = tests.anyM fun t => if s.isEmpty then .ok false else t.holds s := by
  unfold ItemTest.anyHolds
  by_cases hs : s.isEmpty
  · simp only [if_pos hs]
    induction tests with
    | nil => rfl
    | cons t rest ih =>
      rw [List.anyM_cons, ← ih]
      rfl
  · simp only [if_neg hs]

theorem isAny_stacksHold {held : List ItemStack} {parts : List (List ItemTest)}
    (h : ∀ part ∈ parts, ∃ b, stacksHold part held = .ok b) :
    Except.IsAny (stacksHold parts.flatten held) (parts.map fun part => stacksHold part held) := by
  have heq (part : List ItemTest) : stacksHold part held = held.anyM fun s =>
      part.anyM fun t => if s.isEmpty then .ok false else t.holds s :=
    congrArg held.anyM (funext (anyHolds_eq part))
  simp only [heq] at h ⊢
  exact Except.isAny_anyM_anyM_flatten h

theorem disjunctive_equipment (slots : List EquipmentSlot) :
    Disjunctive i (equipment slots) := by
  intro e draw parts h
  cases hp : e.player with
  | none => simp [holds, equipmentHolds, hp, Except.isAny_ok]
  | some p =>
    simp only [holds, equipmentHolds, hp] at h ⊢
    exact isAny_stacksHold h

theorem disjunctive_bauble (slot : BaubleSlot) : Disjunctive i (bauble slot) := by
  intro e draw parts h
  cases hp : e.player with
  | none => simp [holds, baubleHolds, hp, Except.isAny_ok]
  | some p =>
    simp only [holds, baubleHolds, hp] at h ⊢
    exact isAny_stacksHold h

/-- If each value alone comes to a check, then all of them together come to the one that is made of
the parts of each. -/
structure Assembles {V α : Type} (compileList : List V → Except NumberFault Outcome)
    (make : List α → Check) (part : V → List α) : Prop where
  disjunctive : Disjunctive i make
  makes : ∀ vs ≠ [], (∀ v ∈ vs, ∃ c, Makes (compileList [v]) c) →
    Makes (compileList vs) (make (vs.flatMap part))

theorem Assembles.exists_isAny {V α : Type} {compileList : List V → Except NumberFault Outcome}
    {make : List α → Check} {part : V → List α} (h : Assembles i compileList make part)
    {vs : List V} (hvs : vs ≠ []) {alone : V → Check}
    (halone : ∀ v ∈ vs, Makes (compileList [v]) (alone v)) :
    ∃ c, Makes (compileList vs) c ∧
      ∀ e draw, (∀ v ∈ vs, ∃ b, (alone v).holds i e draw = .ok b) →
        Except.IsAny (c.holds i e draw) (vs.map fun v => (alone v).holds i e draw) := by
  have hmade (v : V) (hv : v ∈ vs) : make (part v) = alone v := by
    have hone : Makes (compileList [v]) (make ([v].flatMap part)) :=
      h.makes [v] (List.cons_ne_nil _ _) (List.forall_mem_singleton.2 ⟨_, halone v hv⟩)
    rw [List.flatMap_singleton] at hone
    exact hone.unique (halone v hv)
  refine ⟨_, h.makes vs hvs fun v hv => ⟨_, halone v hv⟩, ?_⟩
  intro e draw hanswers
  have hany := h.disjunctive e draw (vs.map part) (by
    rw [List.forall_mem_map]
    intro v hv
    rw [hmade v hv]
    exact hanswers v hv)
  have hanswer : (vs.map part).map (fun xs => (make xs).holds i e draw) =
      vs.map fun v => (alone v).holds i e draw := by
    rw [List.map_map]
    apply List.map_congr_left
    intro v hv
    rw [Function.comp_apply, hmade v hv]
  rwa [← List.flatMap_def, hanswer] at hany

variable (r : Registry)

theorem assembles_map {V α : Type} {make : List α → Check} (hmake : Disjunctive i make)
    (f : V → α) : Assembles i (fun vs => .ok (.ofResult (.ok (make (vs.map f))))) make
      fun v => [f v] where
  disjunctive := hmake
  makes _ _ _ := makes_ofResult_iff.2 (congrArg (Except.ok <| make ·) List.map_eq_flatMap)

theorem assembles_names {α : Type} {make : List α → Check} (hmake : Disjunctive i make) :
    Assembles i (fun names => .ok (.ofResult (.ok (make names)))) make fun name => [name] := by
  simpa only [List.map_id, id] using assembles_map i hmake id

/-- The biomes that a type contributes. -/
def membersOf (name : Text) : List Text :=
  (r.biomesOfType? name).getD []

theorem biomesOf_eq_ok {names : List Text}
    (h : ∀ name ∈ names, ∃ ids, biomesOf r [name] = .ok ids) :
    biomesOf r names = .ok (names.flatMap (membersOf r)) := by
  induction names with
  | nil => rfl
  | cons name rest ih =>
    obtain ⟨⟨ids, hname⟩, hrest⟩ := List.forall_mem_cons.1 h
    rw [biomesOf] at hname ⊢
    cases hids : r.biomesOfType? name with
    | none => simp [hids] at hname
    | some members => simp [hids, ih hrest, Except.map, membersOf]

theorem assembles_biomes :
    Assembles i (fun names => .ok (.ofResult ((biomesOf r names).map biomeId)))
    biomeId (membersOf r) where
  disjunctive := disjunctive_biomeId i
  makes names _ h := by
    have hnames : biomesOf r names = .ok (names.flatMap (membersOf r)) := by
      apply biomesOf_eq_ok
      intro name hname
      obtain ⟨c, hc⟩ := h name hname
      obtain ⟨ids, hids, _⟩ := Except.map_eq_ok_iff.1 (makes_ofResult_iff.1 hc)
      exact ⟨ids, hids⟩
    rw [makes_ofResult_iff, hnames]
    rfl

theorem assembles_blocks (offsets : List Json) :
    Assembles i (blocksAt r offsets) (block ((offsetOf offsets).toOption.getD none))
      (testsOf r) where
  disjunctive := disjunctive_block i _
  makes vs hvs h := by
    simp only [makes_blocksAt_iff, List.forall_mem_singleton] at h
    obtain ⟨v, hv⟩ := List.exists_mem_of_ne_nil vs hvs
    obtain ⟨_, offset, hoffset, _⟩ := h v hv
    rw [makes_blocksAt_iff, hoffset]
    refine ⟨offset, rfl, ?_, rfl⟩
    intro v hv
    obtain ⟨_, _, _, hcompile, _⟩ := h v hv
    exact hcompile

theorem assembles_items {f : List ItemTest → Check} (hf : Disjunctive i f) :
    Assembles i (compileItems r · f) f (itemsOf r) where
  disjunctive := hf
  makes vs hvs h := by
    simp only [makes_compileItems_iff, List.forall_mem_singleton, List.flatMap_singleton] at h
    rw [makes_compileItems_iff]
    refine ⟨?_, ?_, rfl⟩
    · intro v hv
      obtain ⟨_, hstuck, _⟩ := h v hv
      exact hstuck
    · obtain ⟨v, hv⟩ := List.exists_mem_of_ne_nil vs hvs
      obtain ⟨_, _, hne, _⟩ := h v hv
      intro hnil
      exact hne (List.flatMap_eq_nil_iff.1 hnil v hv)

end Check

/-- The keys that take all of their values, each an alternative to the others. -/
def Key.listsAlternatives : Key → Bool
  | .dimension | .dimensionMod | .category | .block | .biome | .biomeType => true
  | k => k.itemCheck?.isSome

theorem Key.ne_blockOffset_of_listsAlternatives {k : Key} (hk : k.listsAlternatives) :
    k ≠ .blockOffset := by
  rintro rfl
  cases hk

theorem Check.exists_assembles (i : Integrations) (r : Registry) (offsets : List Json) {k : Key}
    (hk : k.listsAlternatives) :
    ∃ (α : Type) (compileList : List k.Value → Except NumberFault Outcome)
      (make : List α → Check) (part : k.Value → List α), Assembles i compileList make part ∧
        ∀ a : RuleAttributes, a.described .blockOffset = offsets →
          compile r a k = compileList (a.getList k) := by
  cases k
  case dimension =>
    exact ⟨_, _, _, _, assembles_map i (disjunctive_dimension i) ResourceName.normalise,
      fun _ _ => rfl⟩
  case dimensionMod =>
    exact ⟨_, _, _, _, assembles_names i (disjunctive_dimensionMod i), fun _ _ => rfl⟩
  case category =>
    exact ⟨_, _, _, _, assembles_map i (disjunctive_category i) Text.lower, fun _ _ => rfl⟩
  case biome =>
    exact ⟨_, _, _, _, assembles_names i (disjunctive_biome i), fun _ _ => rfl⟩
  case biomeType => exact ⟨_, _, _, _, assembles_biomes i r, fun _ _ => rfl⟩
  case block =>
    exact ⟨_, _, _, _, assembles_blocks i r offsets, fun a ha =>
      (compileBlocks_eq r a).trans (congrArg₂ (blocksAt r) ha List.filterMap_some)⟩
  case helmet | chestplate | leggings | boots | playerHeldItem | heldItem | offHandItem
    | bothHandsItem =>
    exact ⟨_, _, _, _, assembles_items i r (disjunctive_equipment i _), fun _ _ => rfl⟩
  case amulet | ring | belt | trinket | head | body | charm =>
    exact ⟨_, _, _, _, assembles_items i r (disjunctive_bauble i _), fun _ _ => rfl⟩
  all_goals cases hk

namespace Rule

open Check (Makes Assembles)
open RuleAttributes

variable (r : Registry) (i : Integrations)

/-- A rule that lists values under one name; what else it holds says at most where the block is. -/
def asking (others : Fields) (name : Text) (vs : List Json) : RuleAttributes :=
  (RuleAttributes.ofFields ((name, .arr vs) :: others)).1

variable {others : Fields} {name : Text} {k : Key}

section Asking

variable (hname : Key.ofName? name = some k)
  (hothers : ∀ field ∈ others, ∀ k', Key.ofName? field.1 = some k' → k' = .blockOffset)
include hname

include hothers in
theorem getList_asking_self (hk : k ≠ .blockOffset) (vs : List Json) :
    (asking others name vs).getList k = valuesOf k vs := by
  have hrest : others.flatMap (given k) = [] := by
    rw [List.flatMap_eq_nil_iff]
    intro field hfield
    exact given_of_name_ne fun h => hk (hothers field hfield k h)
  rw [asking, getList_ofFields, List.flatMap_cons, hrest, List.append_nil]
  exact given_of_name hname (.arr vs)

include hothers in
theorem has_asking_of_ne (vs : List Json) {k' : Key} (hne : k' ≠ k) (ho : k' ≠ .blockOffset) :
    (asking others name vs).has k' = false := by
  have hnil : (asking others name vs).getList k' = [] := by
    rw [asking, getList_ofFields, List.flatMap_eq_nil_iff, List.forall_mem_cons]
    constructor
    · exact given_of_name_ne fun h => hne (Option.some.inj (h.symm.trans hname))
    · intro field hfield
      exact given_of_name_ne fun h => ho (hothers field hfield k' h)
  rw [← Bool.not_eq_true, Attributes.has_eq_true_iff, not_not, hnil]

theorem described_asking_blockOffset (hk : k ≠ .blockOffset) (vs ws : List Json) :
    (asking others name vs).described .blockOffset =
      (asking others name ws).described .blockOffset := by
  have hoffset (vs : List Json) : (asking others name vs).getList .blockOffset =
      others.flatMap (given .blockOffset) := by
    have hnil : given .blockOffset (name, .arr vs) = [] :=
      given_of_name_ne fun h => hk (Option.some.inj (hname.symm.trans h))
    rw [asking, getList_ofFields, List.flatMap_cons, hnil, List.nil_append]
  rw [described, described, hoffset, hoffset]

end Asking

theorem compile_asking_iff (hk : k ≠ .blockOffset) (hname : Key.ofName? name = some k)
    (hothers : ∀ field ∈ others, ∀ k', Key.ofName? field.1 = some k' → k' = .blockOffset)
    {vs : List Json} {c : Check} :
    (∃ reported, compile r i (asking others name vs) = .ok ([⟨k, c⟩], reported)) ↔
      Makes (compileKey r i (asking others name vs) k) c := by
  rw [compile_of_alone r i (asking others name vs) (Key.mem_checkOrder.2 hk)
    fun k' hk' hne => has_asking_of_ne hname hothers vs hne (Key.mem_checkOrder.1 hk')]
  simp only [Except.map_eq_ok_iff, Prod.mk.injEq, Makes]
  constructor
  · rintro ⟨_, ⟨check, reported⟩, ho, hcheck, rfl⟩
    refine ⟨reported, ?_⟩
    cases check with
    | none => cases hcheck
    | some c' =>
      obtain rfl : c' = c := by simpa using hcheck
      exact ho
  · rintro ⟨reported, hc⟩
    exact ⟨reported, _, hc, rfl, rfl⟩

theorem exists_assembles_asking (hk : k.listsAlternatives) (hname : Key.ofName? name = some k)
    (hothers : ∀ field ∈ others, ∀ k', Key.ofName? field.1 = some k' → k' = .blockOffset) :
    ∃ (α : Type) (make : List α → Check) (part : Json → List α),
      Assembles i (fun vs => compileKey r i (asking others name vs) k) make part := by
  have hne := Key.ne_blockOffset_of_listsAlternatives hk
  obtain ⟨α, compileList, make, part, hassembles, hcompile⟩ :=
    Check.exists_assembles i r ((asking others name []).described .blockOffset) hk
  have hiff (vs : List Json) (c : Check) : Makes (compileKey r i (asking others name vs) k) c ↔
      valuesOf k vs ≠ [] ∧ missing? i k = none ∧ Makes (compileList (valuesOf k vs)) c := by
    rw [makes_compileKey_iff, Attributes.has_eq_true_iff,
      hcompile _ (described_asking_blockOffset hname hne vs []),
      getList_asking_self hname hothers hne]
  refine ⟨α, make, fun v => (valuesOf k [v]).flatMap part, hassembles.disjunctive, ?_⟩
  intro vs hvs h
  -- each value is read, and one that is read comes to a check
  have hread (v : Json) (hv : v ∈ vs) : ∃ x, valuesOf k [v] = [x] ∧ missing? i k = none ∧
      ∃ c, Makes (compileList [x]) c := by
    obtain ⟨c, hc⟩ := h v hv
    obtain ⟨hnil, hmissing, hmakes⟩ := (hiff [v] c).1 hc
    obtain ⟨x, hx⟩ := (valuesOf_singleton k v).resolve_left hnil
    exact ⟨x, hx, hmissing, c, hx ▸ hmakes⟩
  have hvalues : valuesOf k vs = vs.flatMap fun v => valuesOf k [v] := by
    apply valuesOf_eq_flatMap
    intro v hv
    obtain ⟨x, hx, _⟩ := hread v hv
    exact hx ▸ List.cons_ne_nil x []
  have hall (x : k.Value) (hx : x ∈ valuesOf k vs) : ∃ c, Makes (compileList [x]) c := by
    rw [hvalues, List.mem_flatMap] at hx
    obtain ⟨v, hv, hxv⟩ := hx
    obtain ⟨y, hy, _, hmakes⟩ := hread v hv
    rw [hy, List.mem_singleton] at hxv
    exact hxv ▸ hmakes
  obtain ⟨v, hv⟩ := List.exists_mem_of_ne_nil vs hvs
  obtain ⟨x, hx, hmissing, _⟩ := hread v hv
  have hnil : valuesOf k vs ≠ [] := by
    rw [hvalues]
    exact List.ne_nil_of_mem (List.mem_flatMap.2 ⟨v, hv, hx ▸ List.mem_singleton_self x⟩)
  rw [hiff, ← List.flatMap_assoc, ← hvalues]
  exact ⟨hnil, hmissing, hassembles.makes _ hnil hall⟩

/-- A list of values under one name: it comes to one check, which matches where one of the values
given alone matches. -/
structure Alternatives (others : Fields) (name : Text) (k : Key) (alone : Json → Check)
    (vs : List Json) (c : Check) : Prop where
  compiles : ∃ reported, compile r i (asking others name vs) = .ok ([⟨k, c⟩], reported)
  answers : ∀ e draw, (∀ v ∈ vs, ∃ b, (alone v).holds i e draw = .ok b) →
    ∃ b, c.holds i e draw = .ok b
  isMatch_eq : ∀ e draw, (∀ v ∈ vs, ∃ b, (alone v).holds i e draw = .ok b) →
    isMatch i e draw [⟨k, c⟩] = vs.any fun v => isMatch i e draw [⟨k, alone v⟩]

theorem exists_alternatives {alone : Json → Check} {vs : List Json} (hk : k.listsAlternatives)
    (hname : Key.ofName? name = some k)
    (hothers : ∀ field ∈ others, ∀ k', Key.ofName? field.1 = some k' → k' = .blockOffset)
    (hvs : vs ≠ [])
    (halone : ∀ v ∈ vs, ∃ reported,
      compile r i (asking others name [v]) = .ok ([⟨k, alone v⟩], reported)) :
    ∃ c, Alternatives r i others name k alone vs c := by
  have hne := Key.ne_blockOffset_of_listsAlternatives hk
  obtain ⟨α, make, part, hassembles⟩ := exists_assembles_asking r i hk hname hothers
  obtain ⟨c, hmakes, hany⟩ := hassembles.exists_isAny i hvs fun v hv =>
    (compile_asking_iff r i hne hname hothers).1 (halone v hv)
  refine ⟨c, (compile_asking_iff r i hne hname hothers).2 hmakes, ?_, ?_⟩
  · intro e draw hanswers
    obtain ⟨b, hb, _⟩ := hany e draw hanswers
    exact ⟨b, hb⟩
  · intro e draw hanswers
    obtain ⟨b, hb, hiff⟩ := hany e draw hanswers
    rw [Bool.eq_iff_iff, isMatch_singleton_iff, hb, Except.ok.injEq, hiff, List.mem_map,
      List.any_eq_true]
    simp only [isMatch_singleton_iff]

theorem isMatch_asking {alone : Json → Check} {vs : List Json} (hk : k.listsAlternatives)
    (hname : Key.ofName? name = some k)
    (hothers : ∀ field ∈ others, ∀ k', Key.ofName? field.1 = some k' → k' = .blockOffset)
    (hvs : vs ≠ [])
    (halone : ∀ v ∈ vs, ∃ reported,
      compile r i (asking others name [v]) = .ok ([⟨k, alone v⟩], reported)) :
    ∃ c, Alternatives r i others name k alone vs c ∧
      ∀ ws, (∀ v, v ∈ ws ↔ v ∈ vs) → ∃ c', Alternatives r i others name k alone ws c' ∧
        ∀ e draw, (∀ v ∈ vs, ∃ b, (alone v).holds i e draw = .ok b) →
          isMatch i e draw [⟨k, c'⟩] = isMatch i e draw [⟨k, c⟩] := by
  obtain ⟨c, hc⟩ := exists_alternatives r i hk hname hothers hvs halone
  refine ⟨c, hc, ?_⟩
  intro ws hws
  have hws' : ws ≠ [] := by
    obtain ⟨v, hv⟩ := List.exists_mem_of_ne_nil vs hvs
    exact List.ne_nil_of_mem ((hws v).2 hv)
  obtain ⟨c', hc'⟩ := exists_alternatives r i hk hname hothers hws' fun v hv =>
    halone v ((hws v).1 hv)
  refine ⟨c', hc', ?_⟩
  intro e draw hanswers
  rw [hc'.isMatch_eq e draw fun v hv => hanswers v ((hws v).1 hv), hc.isMatch_eq e draw hanswers,
    Bool.eq_iff_iff, List.any_eq_true, List.any_eq_true]
  simp only [hws]

/-- The block below the event. -/
def groundOffset : Fields :=
  [("blockoffset", .obj [("offset", .obj [("y", .int (-1))])])]

def groundBlocks : List Json :=
  [.str "stone", .obj [("mod", .str "quarry")]]

def groundCheck : Json → Check
  | .str _ => .block (some ⟨0, -1, 0, false⟩) [[.block "minecraft:stone"]]
  | _ => .block (some ⟨0, -1, 0, false⟩) [[.mod "quarry"]]

theorem isMatch_asking_ground :
    (Key.listsAlternatives .block ∧ Key.ofName? "block" = some .block ∧
      (∀ field ∈ groundOffset, ∀ k', Key.ofName? field.1 = some k' → k' = .blockOffset) ∧
      groundBlocks ≠ [] ∧
      ∀ v ∈ groundBlocks, ∃ reported, compile ⟨[], [("minecraft:stone", [])], []⟩ .absent
        (asking groundOffset "block" [v]) = .ok ([⟨.block, groundCheck v⟩], reported)) ∧
    ∃ c, Alternatives ⟨[], [("minecraft:stone", [])], []⟩ .absent groundOffset "block" .block
        groundCheck groundBlocks c ∧
      ∀ ws, (∀ v, v ∈ ws ↔ v ∈ groundBlocks) →
        ∃ c', Alternatives ⟨[], [("minecraft:stone", [])], []⟩ .absent groundOffset "block" .block
            groundCheck ws c' ∧
          ∀ e draw, (∀ v ∈ groundBlocks, ∃ b, (groundCheck v).holds .absent e draw = .ok b) →
            isMatch .absent e draw [⟨.block, c'⟩] = isMatch .absent e draw [⟨.block, c⟩] :=
  have hname : Key.ofName? "block" = some .block := rfl
  have hoffset : ∀ field ∈ groundOffset, ∀ k', Key.ofName? field.1 = some k' → k' = .blockOffset :=
    List.forall_mem_singleton.2 fun _ h => (Option.some.inj h).symm
  have hblocks : ∀ v ∈ groundBlocks, ∃ reported, compile ⟨[], [("minecraft:stone", [])], []⟩ .absent
      (asking groundOffset "block" [v]) = .ok ([⟨.block, groundCheck v⟩], reported) :=
    List.forall_mem_cons.2 ⟨⟨[], rfl⟩, List.forall_mem_singleton.2 ⟨[], rfl⟩⟩
  ⟨⟨rfl, hname, hoffset, List.cons_ne_nil _ _, hblocks⟩,
    isMatch_asking _ _ rfl hname hoffset (List.cons_ne_nil _ _) hblocks⟩

end Rule
end RuleGate
