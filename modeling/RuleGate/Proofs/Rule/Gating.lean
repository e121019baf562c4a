import RuleGate.Proofs.Rule.Kinds
import RuleGate.Proofs.Rule.Matching

/-!
# Keys without their integration

A key that needs an integration that is not there is removed before its values are looked at, and
leaves a warning where its own report would stand. So a rule compiles exactly as it does when these
keys are taken out of its attributes, to the same checks (`Rule.compile_gated`); the report only has
these warnings besides. No check asks which integrations there are, so a rule that is compiled with
fewer of them has some of the checks that it has with more, and matches wherever that one does.
-/

namespace RuleGate

/-- The capability for want of which a key that is there is removed. -/
def RuleAttributes.removed? (i : Integrations) (a : RuleAttributes) (k : Key) : Option Capability :=
  if a.has k then Rule.missing? i k else none

/-- The attributes without the keys that are removed. -/
def RuleAttributes.supported (i : Integrations) (a : RuleAttributes) : RuleAttributes where
  values k := if (a.removed? i k).isSome then [] else a.values k

namespace RuleAttributes

variable (i : Integrations) (a : RuleAttributes) {k : Key} {c : Capability}

theorem removed?_eq_some_iff :
    a.removed? i k = some c ↔ a.has k ∧ Rule.missing? i k = some c := by
  unfold removed?
  split <;> simp_all

theorem getList_supported_of_removed (h : a.removed? i k = some c) :
    (a.supported i).getList k = [] :=
  if_pos (by rw [h]; rfl)

theorem getList_supported (h : a.removed? i k = none) :
    (a.supported i).getList k = a.getList k :=
  if_neg (by simp [h])

theorem removed?_blockOffset : a.removed? i .blockOffset = none := by
  unfold removed?
  split <;> rfl

end RuleAttributes

namespace Rule

open RuleAttributes (removed?)

variable (r : Registry) (i : Integrations) (a : RuleAttributes)

theorem missing?_eq_none_iff {k : Key} :
    missing? i k = none ↔ ∀ c, k.capability? = some c → i.supports c := by
  simp [missing?, Option.filter_eq_none_iff]

theorem compileKey_of_removed {k : Key} {c : Capability} (h : a.removed? i k = some c) :
    compileKey r i a k = .ok ⟨none, [.omitted (.missingCapability c k)]⟩ := by
  obtain ⟨hhas, hmissing⟩ := (a.removed?_eq_some_iff i).1 h
  exact compileKey_of_missing r i a hhas hmissing

theorem compileKey_supported_of_removed {k : Key} {c : Capability} (h : a.removed? i k = some c) :
    compileKey r i (a.supported i) k = .ok .none := by
  apply compileKey_of_not_has
  change (!((a.supported i).getList k).isEmpty) = false
  rw [a.getList_supported_of_removed i h]
  rfl

theorem compileKey_supported {k : Key} (h : a.removed? i k = none) :
    compileKey r i (a.supported i) k = compileKey r i a k :=
  compileKey_congr r i _ (a.getList_supported i h)
    fun _ => a.getList_supported i (a.removed?_blockOffset i)

theorem map_check_compileKey_supported (k : Key) :
    (compileKey r i (a.supported i) k).map Outcome.check =
      (compileKey r i a k).map Outcome.check := by
  cases h : a.removed? i k with
  | some c => rw [compileKey_of_removed r i a h, compileKey_supported_of_removed r i a h]; rfl
  | none => rw [compileKey_supported r i a h]

theorem reportOf_eq (k : Key) :
    reportOf r i a k = match a.removed? i k with
      | some c => [.omitted (.missingCapability c k)]
      | none => reportOf r i (a.supported i) k := by
  unfold reportOf outcome
  cases h : a.removed? i k with
  | some c => rw [compileKey_of_removed r i a h]
  | none => rw [compileKey_supported r i a h]

theorem reportOf_supported_of_removed {k : Key} {c : Capability} (h : a.removed? i k = some c) :
    reportOf r i (a.supported i) k = [] := by
  unfold reportOf outcome
  rw [compileKey_supported_of_removed r i a h]
  rfl

theorem map_fst_compile_supported :
    (compile r i (a.supported i)).map Prod.fst = (compile r i a).map Prod.fst :=
  map_fst_compileKeys_congr r i _ fun k _ => map_check_compileKey_supported r i a k

theorem compile_supported_eq_ok {rule : Rule} {reported : List Diagnostic}
    (h : compile r i a = .ok (rule, reported)) :
    compile r i (a.supported i) =
      .ok (rule, Key.checkOrder.flatMap (reportOf r i (a.supported i))) := by
  have hmap := map_fst_compile_supported r i a
  rw [h] at hmap
  obtain ⟨⟨rule', reported'⟩, hsupported, rfl⟩ := Except.map_eq_ok_iff.1 hmap
  obtain ⟨_, _, rfl⟩ := (compile_eq_ok_iff r i _).1 hsupported
  exact hsupported

/-- With more integrations a key comes to what it came to with fewer, unless it was removed. -/
theorem checkOf_eq_nil_or_compileKey_eq {more : Integrations} {k : Key}
    (h : missing? i k = none → missing? more k = none) :
    checkOf r i a k = [] ∨ compileKey r i a k = compileKey r more a k := by
  by_cases hhas : a.has k
  · cases hmissing : missing? i k with
    | none =>
      right
      rw [compileKey_of_not_missing r i a hhas hmissing,
        compileKey_of_not_missing r more a hhas (h hmissing)]
    | some c =>
      left
      rw [checkOf, outcome_of_eq_ok r i a (compileKey_of_missing r i a hhas hmissing)]
      rfl
  · right
    rw [Bool.not_eq_true] at hhas
    rw [compileKey_of_not_has r i a hhas, compileKey_of_not_has r more a hhas]

theorem mem_of_missing?_mono {more : Integrations}
    (h : ∀ k, missing? i k = none → missing? more k = none) {rule rule' : Rule}
    {reported reported' : List Diagnostic} (hfewer : compile r i a = .ok (rule, reported))
    (hmore : compile r more a = .ok (rule', reported')) {c : CompiledCheck} (hc : c ∈ rule) :
    c ∈ rule' := by
  obtain ⟨_, rfl, _⟩ := (compile_eq_ok_iff r i a).1 hfewer
  obtain ⟨_, rfl, _⟩ := (compile_eq_ok_iff r more a).1 hmore
  obtain ⟨k, hk, hck⟩ := List.mem_flatMap.1 hc
  refine List.mem_flatMap.2 ⟨k, hk, ?_⟩
  rcases checkOf_eq_nil_or_compileKey_eq r i a (h k) with hnil | heq
  · rw [hnil] at hck
    cases hck
  · have hsame : checkOf r i a k = checkOf r more a k := by
      simp only [checkOf, outcome, heq]
    rwa [← hsame]

end Rule

namespace IntegrationTables

variable (t : IntegrationTables) (more : List Capability)

def withCapabilities : IntegrationTables :=
  { t with capabilities := more }

/-- The answers come from tables that are there whether or not they may be asked. -/
theorem holds_withCapabilities (e : Event) (draw : Number) (c : Check) :
    c.holds (.tables (t.withCapabilities more)) e draw = c.holds (.tables t) e draw := by
  cases c <;> rfl

theorem missing?_withCapabilities (h : t.capabilities ⊆ more) (k : Key)
    (hk : Rule.missing? (.tables t) k = none) :
    Rule.missing? (.tables (t.withCapabilities more)) k = none := by
  rw [Rule.missing?_eq_none_iff] at hk ⊢
  intro c hc
  have hlisted : c ∈ t.capabilities := of_decide_eq_true (hk c hc)
  exact decide_eq_true (h hlisted)

end IntegrationTables

namespace Rule

variable (r : Registry) (a : RuleAttributes)

theorem isMatch_of_withCapabilities {t : IntegrationTables} {more : List Capability}
    (h : t.capabilities ⊆ more) {rule rule' : Rule} {reported reported' : List Diagnostic}
    (hfewer : compile r (.tables t) a = .ok (rule, reported))
    (hmore : compile r (.tables (t.withCapabilities more)) a = .ok (rule', reported'))
    {e : Event} {draw : Number}
    (hmatch : rule'.isMatch (.tables (t.withCapabilities more)) e draw) :
    rule.isMatch (.tables t) e draw := by
  rw [isMatch_eq_all, List.all_eq_true] at hmatch ⊢
  intro c hc
  have hpasses := hmatch c
    (mem_of_missing?_mono r _ a (t.missing?_withCapabilities more h) hfewer hmore hc)
  simpa only [CompiledCheck.passes, t.holds_withCapabilities more] using hpasses

/-- Keys without their integration are removed, whatever their values, and each of them leaves one
warning in its place. The same tables with more integrations to be asked match no more events. -/
theorem compile_gated :
    (∀ i, (compile r i a).map Prod.fst = (compile r i (a.supported i)).map Prod.fst) ∧
    (∀ i rule reported, compile r i a = .ok (rule, reported) →
      compile r i (a.supported i) =
        .ok (rule, Key.checkOrder.flatMap (reportOf r i (a.supported i))) ∧
      reported = Key.checkOrder.flatMap fun k =>
        match a.removed? i k with
        | some c => [.omitted (.missingCapability c k)]
        | none => reportOf r i (a.supported i) k) ∧
    (∀ i k c, a.removed? i k = some c → reportOf r i (a.supported i) k = [] ∧
      (Diagnostic.omitted (.missingCapability c k)).level = .warning) ∧
    ∀ t more, t.capabilities ⊆ more → ∀ rule reported rule' reported',
      compile r (.tables t) a = .ok (rule, reported) →
      compile r (.tables (t.withCapabilities more)) a = .ok (rule', reported') →
      ∀ e draw, rule'.isMatch (.tables (t.withCapabilities more)) e draw →
        rule.isMatch (.tables t) e draw := by
  refine ⟨fun i => (map_fst_compile_supported r i a).symm, ?_, ?_, ?_⟩
  · intro i rule reported h
    obtain ⟨_, _, hreported⟩ := (compile_eq_ok_iff r i a).1 h
    refine ⟨compile_supported_eq_ok r i a h, ?_⟩
    rw [hreported]
    exact List.flatMap_congr fun k _ => reportOf_eq r i a k
  · intro i k c h
    exact ⟨reportOf_supported_of_removed r i a h, rfl⟩
  · intro t more h rule reported rule' reported' hfewer hmore e draw hmatch
    exact isMatch_of_withCapabilities r a h hfewer hmore hmatch

/-- A stage, a season, and a ring with an infinite count, at which compiling would stop. -/
def gatedAttributes : RuleAttributes :=
  .ofAdditions [⟨.gameStage, ("one" : Text)⟩, ⟨.summer, true⟩,
    ⟨.ring, .obj [("empty", .bool false), ("count", .float (.infinity false))]⟩]

def stageTables : IntegrationTables where
  capabilities := [.gameStages]
  seasons := [("minecraft:overworld", .summer)]
  gameStages := [("player", ["one"])]

def stageEvent : Event where
  world := some {}
  player := some {}

def stageRule : Rule := [⟨.gameStage, .stage "one"⟩]

theorem compile_gated_stage :
    (stageTables.capabilities ⊆ [.seasons, .gameStages] ∧
      compile ⟨[], [], []⟩ (.tables stageTables) gatedAttributes = .ok (stageRule,
        [.omitted (.missingCapability .seasons .summer),
          .omitted (.missingCapability .baubles .ring)]) ∧
      gatedAttributes.removed? (.tables stageTables) .ring = some .baubles) ∧
    compile ⟨[], [], []⟩ (.tables stageTables) (gatedAttributes.supported (.tables stageTables)) =
      .ok (stageRule, []) ∧
    stageRule.isMatch (.tables stageTables) stageEvent (.int 0) :=
  have h := compile_gated ⟨[], [], []⟩ gatedAttributes
  ⟨⟨by decide, rfl, rfl⟩, (h.2.1 _ _ _ rfl).1,
    h.2.2.2 stageTables [.seasons, .gameStages] (by decide) _ _ _ _ rfl rfl stageEvent _ rfl⟩

end Rule
end RuleGate
