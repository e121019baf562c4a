import RuleGate.Proofs.Rule.Kinds
import RuleGate.Proofs.Rule.Matching
import RuleGate.Proofs.Snapshot
import RuleGate.Proofs.Snapshot.Spelling

/-!
# Rules do not know how names were spelled

A snapshot whose payload is spelled out has the registry, the event and the integrations of before,
but for the table of the names that are shown for biomes. So rules are compiled to the same checks,
and only a check of biomes can tell the two apart. It does so exactly when the biome of the event
stands in that table under a shorthand, and what is shown for it is not its own name
(`Snapshot.runsAlike_spell`).
-/

namespace RuleGate

open Schema (Checked)

namespace IntegrationTables

/-- What is shown for a biome stands under its full name, unless it is that name itself. -/
def ShownInFull (t : IntegrationTables) (id : Text) : Prop :=
  ∀ name shown, t.biomeNames.get? name = some shown → ResourceName.normalise name = id →
    name = id ∨ shown = id

variable {t : IntegrationTables} {id : Text}

theorem get?_biomeNames_spelledOut (h : t.biomeNames.NamesApart) {shown : Text} :
    t.spelledOut.biomeNames.get? id = some shown ↔
      ∃ name, ResourceName.normalise name = id ∧ t.biomeNames.get? name = some shown :=
  Table.get?_mapKeys_eq_some_iff h

/-- The names by which a biome is known are the same ones exactly if it is shown in full. -/
theorem shownInFull_iff (h : t.biomeNames.NamesApart) (hid : ResourceName.normalise id = id) :
    t.ShownInFull id ↔ ∀ shown,
      (id = shown ∨ t.spelledOut.biomeNames.get? id = some shown) ↔
        (id = shown ∨ t.biomeNames.get? id = some shown) := by
  simp only [get?_biomeNames_spelledOut h]
  constructor
  · intro hfull shown
    constructor
    · rintro (heq | ⟨name, hname, hget⟩)
      · exact .inl heq
      · rcases hfull name shown hget hname with rfl | heq
        · exact .inr hget
        · exact .inl heq.symm
    · exact Or.imp_right fun hget => ⟨id, hid, hget⟩
  · intro hsame name shown hget hname
    rcases (hsame shown).1 (.inr ⟨name, hname, hget⟩) with heq | hid'
    · exact .inr heq.symm
    · -- both names are in the table, and they have one normal form
      exact .inl (h _ (Table.mem_of_get? hget) _ (Table.mem_of_get? hid') (hname.trans hid.symm))

end IntegrationTables

namespace Check

def asksBiome : Check → Bool
  | biome _ => true
  | _ => false

theorem holds_spelledOut (t : IntegrationTables) (e : Event) {c : Check} (hc : c.asksBiome = false)
    (draw : Number) : c.holds (.tables t.spelledOut) e draw = c.holds (.tables t) e draw := by
  cases c with
  | biome _ => cases hc
  | _ => rfl

theorem holds_biome_eq (t : IntegrationTables) {e : Event} {w : World} {p : BlockPos}
    (he : e.located = some (w, p)) (names : List Text) (draw : Number) :
    (biome names).holds (.tables t) e draw = .ok (names.any fun name =>
      (w.biomeAt p).id = name || t.biomeNames.get? (w.biomeAt p).id = some name) := by
  simp only [holds, withPlace, he]
  exact congrArg Except.ok (biomeHolds_eq _ names w p)

theorem holds_spelledOut_of_shownInFull {t : IntegrationTables} (h : t.biomeNames.NamesApart)
    {e : Event} {w : World} {p : BlockPos} (he : e.located = some (w, p))
    (hid : ResourceName.normalise (w.biomeAt p).id = (w.biomeAt p).id)
    (hfull : t.ShownInFull (w.biomeAt p).id) (c : Check) (draw : Number) :
    c.holds (.tables t.spelledOut) e draw = c.holds (.tables t) e draw := by
  cases c with
  | biome names =>
    simp only [holds_biome_eq _ he, ← Bool.decide_or,
      (IntegrationTables.shownInFull_iff h hid).1 hfull]
  | _ => rfl

end Check

namespace Rule

variable {r : Registry} {i : Integrations} {a : RuleAttributes} {rule : Rule}
  {reported : List Diagnostic}

theorem asksBiome_eq_false (h : compile r i a = .ok (rule, reported))
    (hbiome : a.has .biome = false) : ∀ c ∈ rule, c.check.asksBiome = false := by
  rintro ⟨k, c⟩ hc
  obtain ⟨hhas, horigin⟩ := has_and_mem_origins r i a h hc
  cases c with
  | biome names =>
    obtain rfl := List.mem_singleton.1 horigin
    rw [hbiome] at hhas
    cases hhas
  | _ => rfl

def inBiome (name : Text) : RuleAttributes :=
  .ofAdditions [⟨.biome, name⟩]

theorem compile_inBiome (r : Registry) (i : Integrations) (name : Text) :
    compile r i (inBiome name) = .ok ([⟨.biome, .biome [name]⟩], []) := rfl

theorem isMatch_inBiome_iff {t : IntegrationTables} {e : Event} {w : World} {p : BlockPos}
    (he : e.located = some (w, p)) (name : Text) (draw : Number) :
    isMatch (.tables t) e draw [⟨.biome, .biome [name]⟩] ↔
      (w.biomeAt p).id = name ∨ t.biomeNames.get? (w.biomeAt p).id = some name := by
  rw [isMatch_singleton_iff, Check.holds_biome_eq t he]
  simp

end Rule

namespace Snapshot

open Rule (compile run)

variable (s s' : Snapshot) (e : Event) (a : RuleAttributes)

/-- The rule of these attributes has the same checks in both snapshots. -/
def CompilesAlike : Prop :=
  compile s'.registry (.tables s'.integrations) a = compile s.registry (.tables s.integrations) a

/-- It comes to the same in every run. -/
def RunsAlike : Prop :=
  ∀ rule reported, compile s.registry (.tables s.integrations) a = .ok (rule, reported) →
    ∀ source used, run (.tables s'.integrations) e source used rule =
      run (.tables s.integrations) e source used rule

theorem compilesAlike_spelledOut : CompilesAlike s s.spelledOut a :=
  Rule.compile_congr_supports s.registry a fun _ => rfl

theorem runsAlike_of_not_has (ha : a.has .biome = false) : RunsAlike s s.spelledOut e a := by
  intro rule reported h source used
  exact Rule.run_congr _ _ (fun c hc =>
    Check.holds_spelledOut _ e (Rule.asksBiome_eq_false h ha c hc)) source used

variable {s e}

theorem forall_runsAlike_iff {w : World} {p : BlockPos} (h : s.integrations.biomeNames.NamesApart)
    (he : e.located = some (w, p))
    (hid : ResourceName.normalise (w.biomeAt p).id = (w.biomeAt p).id) :
    (∀ a, RunsAlike s s.spelledOut e a) ↔ s.integrations.ShownInFull (w.biomeAt p).id := by
  constructor
  · intro hall
    refine (IntegrationTables.shownInFull_iff h hid).2 fun shown => ?_
    have hruns := hall (Rule.inBiome shown) _ _ (Rule.compile_inBiome _ _ shown)
    have hmatch := congrArg (·.1.matched = true) (hruns (fun _ => .int 0) 0)
    rw [← Rule.isMatch_inBiome_iff he shown (.int 0), ← Rule.isMatch_inBiome_iff he shown (.int 0)]
    exact iff_of_eq hmatch
  · intro hfull a rule reported _ source used
    exact Rule.run_congr _ _ (fun c _ =>
      Check.holds_spelledOut_of_shownInFull h he hid hfull c.check) source used

/-- A payload with all names spelled out is as valid, and every rule has the same checks. Rules
without biomes come to the same in every run. All rules do exactly if the biome of the event is
shown in full. -/
theorem runsAlike_spell {payload : Json} {s : Sections} (h : Sections.shape payload = .valid s)
    (hapart : s.NamesApart) (default : List Capability) {e : Event}
    (he : s.buildEvent = some e) :
    ofJson default payload = .valid (s.build default) ∧
    ofJson default (Sections.spell payload) = .valid (s.build default).spelledOut ∧
    (s.build default).event = some e ∧ (s.build default).spelledOut.event = some e ∧
    (∀ a, CompilesAlike (s.build default) (s.build default).spelledOut a) ∧
    (∀ a, a.has .biome = false → RunsAlike (s.build default) (s.build default).spelledOut e a) ∧
    ((∀ a, RunsAlike (s.build default) (s.build default).spelledOut e a) ↔
      (s.integrations.build default).ShownInFull
        (ResourceName.normalise (s.world.getD {}).biome.id)) := by
  refine ⟨?_, ofJson_spell h hapart default, he, he, compilesAlike_spelledOut _,
    runsAlike_of_not_has _ e, ?_⟩
  · rw [ofJson, h]
    rfl
  · obtain ⟨event, _, rfl⟩ := Option.map_eq_some_iff.1 he
    have hbiome := (s.world.getD {}).biomeAt_build event.pos
    have hid : ResourceName.normalise ((s.world.getD {}).build.biomeAt event.pos).id =
        ((s.world.getD {}).build.biomeAt event.pos).id := by
      rw [hbiome]
      exact ResourceName.normalise_normalise _
    rw [forall_runsAlike_iff (w := (s.world.getD {}).build) (p := event.pos) hapart.biomeNames rfl
      hid, hbiome]
    rfl

/-- Stone in the hand and in the world, and a biome that is shown under its full name. -/
def shorthandPayload : Json :=
  .obj [
    ("registry", .obj [("blocks", .obj [("stone", .obj [])])]),
    ("event", .obj [("pos", .arr [.int 0, .int 0, .int 0])]),
    ("world", .obj [("biome", .obj [("id", .str "plains")]), ("blocks", .arr [
      .obj [("pos", .arr [.int 0, .int 0, .int 0]), ("block", .str " stone ")]])]),
    ("player", .obj [("equipment", .obj [("mainhand", .obj [("item", .str "stone")])])]),
    ("compat", .obj [("biome_names", .obj [("minecraft:plains", .str "Flatlands")])])]

def shorthandSections : Sections where
  registry := { blocks := [("stone", [])] }
  world := some { biome := { id := "plains" }, blocks := [⟨⟨0, 0, 0⟩, " stone ", [], none⟩] }
  player := some ⟨"player", [(.mainhand, ⟨"stone", 1, 0, none, none⟩)], none⟩
  event := some ⟨⟨0, 0, 0⟩, none⟩
  integrations := { biomeNames := [("minecraft:plains", "Flatlands")] }

def shorthandEvent : Event where
  world := some { blocks := [(⟨0, 0, 0⟩, ⟨"minecraft:stone", []⟩)] }
  pos := some ⟨0, 0, 0⟩
  player := some { equipment := [(.mainhand, { item := "minecraft:stone" })] }

theorem namesApart_shorthand : shorthandSections.NamesApart where
  blocks := by rintro _ (_ | ⟨_, ⟨⟩⟩) _ (_ | ⟨_, ⟨⟩⟩) _; rfl
  structures := by rintro _ ⟨⟩ _ ⟨⟩
  seasons := by rintro _ ⟨⟩
  biomeNames := by rintro _ (_ | ⟨_, ⟨⟩⟩) _ (_ | ⟨_, ⟨⟩⟩) _; rfl

theorem shownInFull_shorthand :
    (shorthandSections.integrations.build []).ShownInFull "minecraft:plains" := by
  intro name shown hget _
  exact .inl (congrArg Prod.fst (List.mem_singleton.1 (Table.mem_of_get? hget)))

theorem runsAlike_spell_shorthand :
    (Sections.shape shorthandPayload = .valid shorthandSections ∧ shorthandSections.NamesApart ∧
      shorthandSections.buildEvent = some shorthandEvent) ∧
    ofJson [] (Sections.spell shorthandPayload) = .valid (shorthandSections.build []).spelledOut ∧
    ∀ a, RunsAlike (shorthandSections.build []) (shorthandSections.build []).spelledOut
      shorthandEvent a :=
  have hshape : Sections.shape shorthandPayload = .valid shorthandSections := rfl
  have h := runsAlike_spell hshape namesApart_shorthand [] (e := shorthandEvent) rfl
  ⟨⟨hshape, namesApart_shorthand, rfl⟩, h.2.1, h.2.2.2.2.2.2.2 shownInFull_shorthand⟩

/-- The biome of the event is shown as something else, but under a shorthand. -/
def flatlandsPayload : Json :=
  .obj [
    ("event", .obj [("pos", .arr [.int 0, .int 0, .int 0])]),
    ("compat", .obj [("biome_names", .obj [("plains", .str "Flatlands")])])]

def flatlandsSections : Sections where
  registry := {}
  world := none
  player := none
  event := some ⟨⟨0, 0, 0⟩, none⟩
  integrations := { biomeNames := [("plains", "Flatlands")] }

theorem namesApart_flatlands : flatlandsSections.NamesApart where
  blocks := by rintro _ ⟨⟩
  structures := by rintro _ ⟨⟩
  seasons := by rintro _ ⟨⟩
  biomeNames := by rintro _ (_ | ⟨_, ⟨⟩⟩) _ (_ | ⟨_, ⟨⟩⟩) _; rfl

/-- What is shown for a biome that stands under a shorthand is only found once it is spelled
out. -/
theorem shorthand_of_biome_not_shown :
    Sections.shape flatlandsPayload = .valid flatlandsSections ∧ flatlandsSections.NamesApart ∧
    ∃ s s' e, ofJson [] flatlandsPayload = .valid s ∧
      ofJson [] (Sections.spell flatlandsPayload) = .valid s' ∧
      s.event = some e ∧ s'.event = some e ∧
      compile s.registry (.tables s.integrations)
        (RuleAttributes.ofFields [("biome", .str "Flatlands")]).1 =
          .ok ([⟨.biome, .biome ["Flatlands"]⟩], []) ∧
      (∀ draw, Rule.isMatch (.tables s.integrations) e draw
        [⟨.biome, .biome ["Flatlands"]⟩] = false) ∧
      ∀ draw, Rule.isMatch (.tables s'.integrations) e draw
        [⟨.biome, .biome ["Flatlands"]⟩] = true :=
  ⟨rfl, namesApart_flatlands, _, _, _, rfl, rfl, rfl, rfl, rfl, fun _ => rfl, fun _ => rfl⟩

end Snapshot
end RuleGate
