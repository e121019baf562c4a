import RuleGate.Proofs.Rule.Attributes
import RuleGate.Proofs.Rule.Matching
import RuleGate.Proofs.Rule.Outcome

/-!
# Keys are compiled and matched one by one

`a.only k` are the attributes of the key `k` alone. Every rule that compiles is taken apart into
its keys (`compile_isolated`): each key alone compiles as well, to one check or none; the rule has
the checks of its keys in their order, reports what they report, and matches where all of them
match. How the keys took turns when they were given plays no part in it.
-/

namespace RuleGate.Rule

variable (r : Registry) (i : Integrations) (a : RuleAttributes)

theorem compileKey_only_self (k : Key) : compileKey r i (a.only k) k = compileKey r i a k :=
  compileKey_congr r i _ (a.getList_only_self k) (fun hk => by
    subst hk
    exact a.getList_only_block)

/-- A key alone comes to what it comes to among others. -/
theorem compile_only {k : Key} (hk : k ∈ Key.checkOrder)
    (h : compileKey r i a k = .ok (outcome r i a k)) :
    compile r i (a.only k) = .ok (checkOf r i a k, reportOf r i a k) := by
  rw [compile_of_alone r i _ hk, compileKey_only_self, h]
  · rfl
  · intro k' hk' hne
    exact a.has_only_of_ne hne (Key.mem_checkOrder.1 hk')

theorem keys_flatMap_eq_filter (ks : List Key) :
    keys (ks.flatMap (checkOf r i a)) = ks.filter fun k => keys (checkOf r i a k) = [k] := by
  rw [keys_flatMap_checkOf]
  apply List.filter_congr
  intro k _
  rw [keys_checkOf]
  cases (outcome r i a k).check <;> simp

/-- A rule and its report, taken apart into what the keys come to when each is given alone. -/
structure Isolated (rule : Rule) (reported : List Diagnostic)
    (alone : Key → Rule × List Diagnostic) : Prop where
  compiles : ∀ k ∈ Key.checkOrder, compile r i (a.only k) = .ok (alone k)
  keys_eq : rule.keys = Key.checkOrder.filter fun k => (alone k).1.keys = [k]
  nodup_keys : rule.keys.Nodup
  reported_eq : reported = Key.checkOrder.flatMap fun k => (alone k).2
  /-- A check without an answer makes its key alone match nothing. -/
  isMatch_eq : ∀ e draw, rule.isMatch i e draw =
    Key.checkOrder.all fun k => (alone k).1.isMatch i e draw
  /-- Only the order of the values under one key matters. -/
  order_irrelevant : ∀ added other : List (Σ k : Key, k.Value), a = .ofAdditions added →
    (∀ k, (added.filter fun p => p.1 = k) = other.filter fun p => p.1 = k) →
    compile r i (.ofAdditions other) = .ok (rule, reported)

theorem compile_isolated {rule : Rule} {reported : List Diagnostic}
    (h : compile r i a = .ok (rule, reported)) :
    ∃ alone, Isolated r i a rule reported alone := by
  obtain ⟨hall, hrule, hreported⟩ := (compile_eq_ok_iff r i a).1 h
  refine ⟨fun k => (checkOf r i a k, reportOf r i a k), ?_, ?_, ?_, hreported, ?_, ?_⟩
  · intro k hk
    exact compile_only r i a hk (hall k hk)
  · rw [hrule, keys_flatMap_eq_filter]
  · rw [hrule, keys_flatMap_checkOf]
    exact Key.nodup_checkOrder.filter _
  · intro e draw
    rw [hrule, isMatch_flatMap]
  · intro added other ha hsame
    rw [← Attributes.ofAdditions_congr hsame, ← ha, h]

/-- A block with its offset and a height compile; the other two keys are reported. -/
def mixedAttributes : RuleAttributes :=
  .ofAdditions [⟨.block, .str "stone"⟩, ⟨.weather, ("snow" : Text)⟩, ⟨.blockOffset, .obj []⟩,
    ⟨.minHeight, (3 : Int)⟩, ⟨.gameStage, ("one" : Text)⟩]

def mixedRule : Rule := [
    ⟨.minHeight, .height .atLeast 3⟩,
    ⟨.block, .block (some ⟨0, 0, 0, false⟩) [[.block "minecraft:stone"]]⟩]

theorem compile_isolated_mixed :
    compile ⟨[], [("minecraft:stone", [])], []⟩ .absent mixedAttributes = .ok (mixedRule,
        [.omitted (.unknownWeather "snow"), .omitted (.missingCapability .gameStages .gameStage)]) ∧
      ∃ alone, Isolated ⟨[], [("minecraft:stone", [])], []⟩ .absent mixedAttributes mixedRule
        [.omitted (.unknownWeather "snow"), .omitted (.missingCapability .gameStages .gameStage)]
        alone :=
  ⟨rfl, compile_isolated _ _ _ rfl⟩

end RuleGate.Rule
