import RuleGate.Proofs.Descriptor.Entries
import RuleGate.Proofs.Rule.Attributes
import RuleGate.Proofs.Rule.Outcome

/-!
# Kinds of keys

Fifteen keys describe items. They compile alike, each into a check of its own kind, and what such a
key comes to is known from its entries (`Rule.eq_of_itemCheck?`): the check is left out when no
entry compiles. The key `block` reads its offset and then its blocks (`Check.blocksAt_cases`).
Every other key comes to one check or to one error (`Check.exists_compile_eq_ofResult`). Of all keys
but those of items, one that is left out has its reason in the report
(`Rule.explained_of_compileKey`). From a check it is known which keys may have come to it
(`Check.mem_origins_of_compile`).
-/

namespace RuleGate

def AttributeType.json? : (t : AttributeType) → t.Value → Option Json
  | .json, v => some v
  | _, _ => none

namespace RuleAttributes

def described (a : RuleAttributes) (k : Key) : List Json :=
  (a.getList k).filterMap k.type.json?

def entries (a : RuleAttributes) (k : Key) : List Json :=
  (a.described k).flatMap ItemTest.entriesOf

end RuleAttributes

def Key.itemCheck? : Key → Option (List ItemTest → Check)
  | .helmet => some (.equipment [.head])
  | .chestplate => some (.equipment [.chest])
  | .leggings => some (.equipment [.legs])
  | .boots => some (.equipment [.feet])
  | .playerHeldItem | .heldItem => some (.equipment [.mainhand])
  | .offHandItem => some (.equipment [.offhand])
  | .bothHandsItem => some (.equipment [.offhand, .mainhand])
  | .amulet => some (.bauble .amulet)
  | .ring => some (.bauble .ring)
  | .belt => some (.bauble .belt)
  | .trinket => some (.bauble .trinket)
  | .head => some (.bauble .head)
  | .body => some (.bauble .body)
  | .charm => some (.bauble .charm)
  | _ => none

namespace Check

variable (r : Registry) (a : RuleAttributes)

theorem compile_of_itemCheck? {k : Key} {f : List ItemTest → Check} (h : k.itemCheck? = some f) :
    compile r a k = compileItems r (a.described k) f := by
  cases k <;> cases h <;> exact congrArg (compileItems r · _) List.filterMap_some.symm

theorem compileItems_eq_ok_iff {vs : List Json} {f : List ItemTest → Check} {o : Outcome} :
    compileItems r vs f = .ok o ↔
      (∀ entry ∈ vs.flatMap ItemTest.entriesOf, ¬ Failure.Stuck (ItemTest.compile r entry)) ∧
        o = ⟨if (vs.flatMap ItemTest.entriesOf).filterMap (ItemTest.testOf? r) = [] then none
            else some (f ((vs.flatMap ItemTest.entriesOf).filterMap (ItemTest.testOf? r))),
          (vs.flatMap ItemTest.entriesOf).filterMap (ItemTest.warningOf? r)⟩ := by
  simp only [compileItems, Except.bind_eq_ok_iff, ItemTest.compileAll_eq,
    ItemTest.compileEntries_eq_ok_iff, List.isEmpty_iff, Except.pure_eq_ok, Except.ok.injEq]
  constructor
  · rintro ⟨_, ⟨hstuck, rfl⟩, rfl⟩
    exact ⟨hstuck, rfl⟩
  · rintro ⟨hstuck, rfl⟩
    exact ⟨_, ⟨hstuck, rfl⟩, rfl⟩

theorem ofFirst_eq_ofResult {α : Type} {vs : List α} (hvs : vs ≠ [])
    (f : α → Except CompileError Check) : ∃ x, Outcome.ofFirst vs f = .ofResult x := by
  cases vs with
  | nil => exact absurd rfl hvs
  | cons v rest => exact ⟨f v, rfl⟩

theorem exists_compile_eq_ofResult {k : Key} (hhas : a.has k) (ho : k ∈ Key.checkOrder)
    (hb : k ≠ .block) (hi : k.itemCheck? = none) : ∃ x, compile r a k = .ok (.ofResult x) := by
  have hne : a.getList k ≠ [] := Attributes.has_eq_true_iff.1 hhas
  cases k
  case block => exact absurd rfl hb
  case blockOffset => exact absurd rfl (Key.mem_checkOrder.1 ho)
  case dimension | dimensionMod | category | biome | biomeType => exact ⟨_, rfl⟩
  case helmet | chestplate | leggings | boots | playerHeldItem | heldItem | offHandItem
    | bothHandsItem | amulet | ring | belt | trinket | head | body | charm => cases hi
  -- all other keys are compiled from the first of their values
  all_goals
    obtain ⟨x, hx⟩ := ofFirst_eq_ofResult hne _
    exact ⟨x, congrArg Except.ok hx⟩

end Check

/-- There is a check, or the report says why there is none. -/
def Outcome.Explained (o : Outcome) : Prop :=
  o.check.isSome ∨ ∃ e, .omitted e ∈ o.diagnostics

theorem Outcome.explained_ofResult (x : Except CompileError Check) : (ofResult x).Explained := by
  cases x with
  | ok c => exact .inl rfl
  | error e => exact .inr ⟨e, List.mem_singleton_self _⟩

namespace Check

def blocksAt (r : Registry) (offsets wanted : List Json) : Except NumberFault Outcome :=
  match offsetOf offsets with
  | .error (.number f) => .error f
  | .error (.compile e) => .ok (.ofResult (.error e))
  | .ok offset => do
    let (wanted, reported) ← blocksOf r wanted
    let outcome := Outcome.ofResult (wanted.map (block offset))
    return ⟨outcome.check, reported ++ outcome.diagnostics⟩

theorem compileBlocks_eq (r : Registry) (a : RuleAttributes) :
    compileBlocks r a = blocksAt r (a.described .blockOffset) (a.described .block) :=
  congrArg₂ (blocksAt r) List.filterMap_some.symm List.filterMap_some.symm

variable {r : Registry} {a : RuleAttributes} {o : Outcome}

theorem blocksAt_cases {offsets wanted : List Json} (h : blocksAt r offsets wanted = .ok o) :
    (∃ e, o = .ofResult (.error e)) ∨
    (∃ e reported, o = ⟨none, reported ++ [.omitted e]⟩) ∨
    ∃ offset tests reported, offsetOf offsets = .ok offset ∧
      blocksOf r wanted = .ok (.ok tests, reported) ∧
      o = ⟨some (block offset tests), reported⟩ := by
  unfold blocksAt at h
  rcases hoffset : offsetOf offsets with (e | f) | offset <;> rw [hoffset] at h
  · exact .inl ⟨e, (Except.ok.inj h).symm⟩
  · cases h
  · obtain ⟨⟨result, reported⟩, hwanted, hout⟩ := Except.bind_eq_ok_iff.1 h
    obtain rfl := Except.ok.inj hout
    cases result with
    | error e => exact .inr (.inl ⟨e, reported, rfl⟩)
    | ok tests => exact .inr (.inr ⟨offset, tests, reported, rfl, hwanted, by
        simp [Outcome.ofResult, Except.map]⟩)

theorem explained_compileBlocks (h : compileBlocks r a = .ok o) : o.Explained := by
  rw [compileBlocks_eq] at h
  rcases blocksAt_cases h with ⟨e, rfl⟩ | ⟨e, reported, rfl⟩ | ⟨_, _, _, _, _, rfl⟩
  · exact Outcome.explained_ofResult _
  · exact .inr ⟨e, List.mem_append_right _ (List.mem_singleton_self _)⟩
  · exact .inl rfl

end Check

namespace Check

def origins : Check → List Key
  | random _ => [.random]
  | dimension _ => [.dimension]
  | dimensionMod _ => [.dimensionMod]
  | time .atLeast _ => [.minTime]
  | time .atMost _ => [.maxTime]
  | height .atLeast _ => [.minHeight]
  | height .atMost _ => [.maxHeight]
  | rain | thunder => [.weather]
  | category _ => [.category]
  | difficulty _ => [.difficulty]
  | spawnDistance .atLeast _ => [.minSpawnDist]
  | spawnDistance .atMost _ => [.maxSpawnDist]
  | light .atLeast _ => [.minLight]
  | light .atMost _ => [.maxLight]
  | localDifficulty .atLeast _ => [.minDifficulty]
  | localDifficulty .atMost _ => [.maxDifficulty]
  | seesSky _ => [.seeSky]
  | block _ _ => [.block]
  | biome _ => [.biome]
  | biomeId _ => [.biomeType]
  | inStructure _ => [.structureName]
  | equipment _ _ => [.helmet, .chestplate, .leggings, .boots, .playerHeldItem, .heldItem,
      .offHandItem, .bothHandsItem]
  | worldState _ _ => [.state]
  | playerState _ _ => [.playerState]
  | season _ _ => [.summer, .winter, .spring, .autumn]
  | stage _ => [.gameStage]
  | cityPlace _ _ => [.inCity, .inStreet, .inSphere, .inBuilding]
  | bauble _ _ => [.amulet, .ring, .belt, .trinket, .head, .body, .charm]

theorem check_ofResult_eq_some_iff {x : Except CompileError Check} {c : Check} :
    (Outcome.ofResult x).check = some c ↔ x = .ok c := by
  cases x <;> simp [Outcome.ofResult]

theorem check_ofFirst_eq_some_iff {α : Type} {vs : List α} {f : α → Except CompileError Check}
    {c : Check} : (Outcome.ofFirst vs f).check = some c ↔ ∃ v, vs.head? = some v ∧ f v = .ok c := by
  cases vs with
  | nil => simp [Outcome.ofFirst, Outcome.none]
  | cons v rest => simp [Outcome.ofFirst, check_ofResult_eq_some_iff]

variable {r : Registry} {a : RuleAttributes} {k : Key} {o : Outcome} {c : Check}

theorem check_of_compileItems {vs : List Json} {f : List ItemTest → Check}
    (h : compileItems r vs f = .ok o) (hc : o.check = some c) : ∃ tests, c = f tests := by
  obtain ⟨batch, _, hout⟩ := Except.bind_eq_ok_iff.1 h
  obtain rfl := Except.ok.inj hout
  dsimp only at hc
  split at hc
  · cases hc
  · exact ⟨batch.tests, (Option.some.inj hc).symm⟩

theorem check_of_compileBlocks (h : compileBlocks r a = .ok o) (hc : o.check = some c) :
    ∃ offset tests, c = block offset tests := by
  rw [compileBlocks_eq] at h
  rcases blocksAt_cases h with ⟨e, rfl⟩ | ⟨e, _, rfl⟩ | ⟨offset, tests, _, _, _, rfl⟩
  · cases hc
  · cases hc
  · exact ⟨offset, tests, (Option.some.inj hc).symm⟩

theorem weather_mem_origins {name : Text} (h : weatherOf name = .ok c) : .weather ∈ c.origins := by
  unfold weatherOf at h
  dsimp only at h
  split_ifs at h <;> cases h <;> exact List.mem_singleton_self _

theorem difficulty_mem_origins {name : Text} (h : difficultyOf name = .ok c) :
    .difficulty ∈ c.origins := by
  unfold difficultyOf at h
  split at h <;> cases h
  exact List.mem_singleton_self _

theorem mem_origins_of_compile (h : compile r a k = .ok o) (hc : o.check = some c) :
    k ∈ c.origins := by
  cases k
  case block =>
    obtain ⟨_, _, rfl⟩ := check_of_compileBlocks h hc
    exact List.mem_singleton_self _
  case blockOffset =>
    cases h
    cases hc
  case helmet | chestplate | leggings | boots | playerHeldItem | heldItem | offHandItem
    | bothHandsItem | amulet | ring | belt | trinket | head | body | charm =>
    obtain ⟨_, rfl⟩ := check_of_compileItems h hc
    simp [origins]
  all_goals obtain rfl := Except.ok.inj h
  case dimension | dimensionMod | category | biome =>
    cases hc
    exact List.mem_singleton_self _
  case biomeType =>
    obtain ⟨_, _, rfl⟩ := Except.map_eq_ok_iff.1 (check_ofResult_eq_some_iff.1 hc)
    exact List.mem_singleton_self _
  -- all other keys are compiled from the first of their values
  all_goals obtain ⟨v, _, hv⟩ := check_ofFirst_eq_some_iff.1 hc
  case weather => exact weather_mem_origins hv
  case difficulty => exact difficulty_mem_origins hv
  case state | playerState =>
    obtain ⟨_, _, rfl⟩ := Except.map_eq_ok_iff.1 hv
    exact List.mem_singleton_self _
  all_goals
    cases hv
    simp [origins]

theorem draws_eq_false_of_mem_origins (h : k ∈ c.origins) (hk : k ≠ .random) :
    c.draws = false := by
  cases c with
  | random chance => exact absurd (List.mem_singleton.1 h) hk
  | _ => rfl

end Check

namespace Rule

variable (r : Registry) (i : Integrations) (a : RuleAttributes)

theorem compileKey_of_missing {k : Key} {c : Capability} (hhas : a.has k)
    (hc : missing? i k = some c) :
    compileKey r i a k = .ok (.ofResult (.error (.missingCapability c k))) := by
  simp [compileKey, hhas, hc]

theorem compileKey_of_not_missing {k : Key} (hhas : a.has k) (hc : missing? i k = none) :
    compileKey r i a k = Check.compile r a k := by
  simp [compileKey, hhas, hc]

theorem compile_of_check_eq_some {k : Key} {o : Outcome} {c : Check}
    (h : compileKey r i a k = .ok o) (hcheck : o.check = some c) : Check.compile r a k = .ok o := by
  by_cases hhas : a.has k
  · cases hc : missing? i k with
    | some capability =>
      rw [compileKey_of_missing r i a hhas hc] at h
      obtain rfl := Except.ok.inj h
      cases hcheck
    | none => rw [← h, compileKey_of_not_missing r i a hhas hc]
  · rw [compileKey_of_not_has r i a (Bool.eq_false_iff.2 hhas)] at h
    obtain rfl := Except.ok.inj h
    cases hcheck

theorem exists_compileKey_of_mem {rule : Rule} {reported : List Diagnostic}
    (h : compile r i a = .ok (rule, reported)) {c : CompiledCheck} (hc : c ∈ rule) :
    ∃ o, compileKey r i a c.key = .ok o ∧ o.check = some c.check := by
  obtain ⟨hkeys, rfl, _⟩ := (compile_eq_ok_iff r i a).1 h
  obtain ⟨k, hk, hck⟩ := List.mem_flatMap.1 hc
  obtain ⟨check, hcheck, rfl⟩ : ∃ check, (outcome r i a k).check = some check ∧
      ⟨k, check⟩ = c := by
    simpa [checkOf] using hck
  exact ⟨_, hkeys k hk, hcheck⟩

theorem has_and_mem_origins {rule : Rule} {reported : List Diagnostic}
    (h : compile r i a = .ok (rule, reported)) {c : CompiledCheck} (hc : c ∈ rule) :
    a.has c.key ∧ c.key ∈ c.check.origins := by
  obtain ⟨o, ho, hcheck⟩ := exists_compileKey_of_mem r i a h hc
  refine ⟨?_, Check.mem_origins_of_compile (compile_of_check_eq_some r i a ho hcheck) hcheck⟩
  by_contra hhas
  cases ho.symm.trans (compileKey_of_not_has r i a (Bool.eq_false_iff.2 hhas))
  cases hcheck

theorem compileKey_block : compileKey r i a .block =
    if (a.described .block).isEmpty then .ok .none
    else Check.blocksAt r (a.described .blockOffset) (a.described .block) := by
  have hblock : a.described .block = a.getList .block := List.filterMap_some
  have hhas : (!a.has .block) = (a.described .block).isEmpty := by
    rw [hblock]
    exact Bool.not_not _
  rw [compileKey, hhas]
  exact if_congr Iff.rfl rfl (Check.compileBlocks_eq r a)

theorem explained_of_compileKey {k : Key} {o : Outcome} (hhas : a.has k) (ho : k ∈ Key.checkOrder)
    (hk : k.itemCheck? = none ∨ missing? i k ≠ none) (h : compileKey r i a k = .ok o) :
    o.Explained := by
  cases hc : missing? i k with
  | some c =>
    rw [compileKey_of_missing r i a hhas hc] at h
    obtain rfl := Except.ok.inj h
    exact Outcome.explained_ofResult _
  | none =>
    rw [compileKey_of_not_missing r i a hhas hc] at h
    by_cases hb : k = .block
    · subst hb
      exact Check.explained_compileBlocks h
    · obtain ⟨x, hx⟩ := Check.exists_compile_eq_ofResult r a hhas ho hb (by simpa [hc] using hk)
      obtain rfl := Except.ok.inj (hx.symm.trans h)
      exact Outcome.explained_ofResult x

theorem eq_of_itemCheck? {k : Key} {f : List ItemTest → Check} {o : Outcome} (hhas : a.has k)
    (hc : missing? i k = none) (hf : k.itemCheck? = some f) (h : compileKey r i a k = .ok o) :
    (∀ entry ∈ a.entries k, ¬ Failure.Stuck (ItemTest.compile r entry)) ∧
      o.check = (if (a.entries k).filterMap (ItemTest.testOf? r) = [] then none
        else some (f ((a.entries k).filterMap (ItemTest.testOf? r)))) ∧
      o.diagnostics = (a.entries k).filterMap (ItemTest.warningOf? r) := by
  rw [compileKey_of_not_missing r i a hhas hc, Check.compile_of_itemCheck? r a hf,
    Check.compileItems_eq_ok_iff] at h
  obtain ⟨hstuck, rfl⟩ := h
  exact ⟨hstuck, rfl, rfl⟩

end Rule
end RuleGate
