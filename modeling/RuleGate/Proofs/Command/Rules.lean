import RuleGate.Proofs.Command
import RuleGate.Proofs.Lists
import RuleGate.Proofs.Rule.Fields
import RuleGate.Proofs.Rule.Kinds
import RuleGate.Proofs.Rule.Matching

/-!
# Rules one by one

Both commands go through the rules of a file and report on each. What they say of a rule depends on
the rule and on the snapshot: `Command.ReportsOn` is the report of compiling it, and
`Command.JudgesOn` adds whether the event of the snapshot matches. So the report on a rule is the
same in every file, both commands agree on it, and of a rule without random checks the verdict is
the same too, although random numbers run on from each rule to the next (`Command.StandsAlone`,
`Command.run_ruleByRule`).
-/

namespace RuleGate

def Report.unjudged (report : Report) : Report :=
  { report with matched := none }

/-- The code with which rules are compiled that have these reports. -/
def Report.exitCode (reports : List Report) : Nat :=
  if ∃ report ∈ reports, report.errors ≠ [] then 1 else 0

namespace Command

variable {settings : Settings} {files : Files} {path : Text} {snapshot : Option Text}
  {s : Snapshot} {e : Event} {rule : Text × Fields} {rules : List (Text × Fields)}
  {report report' : Report} {reports : List Report} {source : Nat → Number}

/-- What a command finds in its files, if all of the rules compile. -/
structure Finds (settings : Settings) (files : Files) (path : Text) (snapshot : Option Text)
    (s : Snapshot) (rules : List (Text × Fields)) : Prop where
  snapshot_eq : snapshotFor settings files snapshot = .ok s
  rules_eq : Document.loadRules files path = .ok rules
  compiles : ∀ rule ∈ rules, ∃ compiled, compileRule s rule.2 = .ok compiled

def ReportsOn (s : Snapshot) (rule : Text × Fields) (report : Report) : Prop :=
  ∃ compiled reported, compileRule s rule.2 = .ok (compiled, reported) ∧
    report = ⟨rule.1, none, compiled.keys, reported⟩

/-- The report on a rule that is put to an event. The numbers that are used up before belong to
other rules. -/
def JudgesOn (s : Snapshot) (e : Event) (source : Nat → Number) (rule : Text × Fields)
    (report : Report) : Prop :=
  ∃ compiled reported used, compileRule s rule.2 = .ok (compiled, reported) ∧
    report = ⟨rule.1, some (compiled.run (.tables s.integrations) e source used).1.matched,
      compiled.keys, reported⟩

theorem exitCode_cons (report : Report) (reports : List Report) :
    Report.exitCode (report :: reports) =
      if report.errors ≠ [] then 1 else Report.exitCode reports := by
  unfold Report.exitCode
  by_cases herrors : report.errors = [] <;> simp [herrors]

theorem compileEach_eq (h : List.Forall₂ (ReportsOn s) rules reports) (failed : Bool) :
    compileEach s failed rules =
      ⟨reports.map .report, .exit (if failed then 1 else Report.exitCode reports)⟩ := by
  induction h generalizing failed with
  | nil => rfl
  | @cons rule report rules reports hrule _ ih =>
    obtain ⟨compiled, reported, hcompile, rfl⟩ := hrule
    have hcode (errors : List Text) (n : Nat) :
        (if failed || !errors.isEmpty then 1 else n) =
          if failed then 1 else if errors ≠ [] then 1 else n := by
      cases failed <;> cases errors <;> rfl
    rw [compileEach, hcompile]
    dsimp only
    rw [ih, exitCode_cons, hcode]
    rfl

theorem evaluateEach_eq (h : ∀ rule ∈ rules, ∃ compiled, compileRule s rule.2 = .ok compiled)
    (used : Nat) : ∃ judged, List.Forall₂ (JudgesOn s e source) rules judged ∧
      evaluateEach s e source used rules = ⟨judged.map .report, .exit 0⟩ := by
  induction rules generalizing used with
  | nil => exact ⟨[], .nil, rfl⟩
  | cons rule rest ih =>
    obtain ⟨⟨⟨compiled, reported⟩, hrule⟩, hrest⟩ := List.forall_mem_cons.1 h
    obtain ⟨judged, hjudged, heval⟩ :=
      ih hrest (compiled.run (.tables s.integrations) e source used).2
    refine ⟨_, .cons ⟨compiled, reported, used, hrule, rfl⟩ hjudged, ?_⟩
    rw [evaluateEach, hrule]
    dsimp only
    rw [heval]
    rfl

theorem JudgesOn.reportsOn (h : JudgesOn s e source rule report) :
    ReportsOn s rule report.unjudged := by
  obtain ⟨compiled, reported, used, hrule, rfl⟩ := h
  exact ⟨compiled, reported, hrule, rfl⟩

theorem ReportsOn.unique (h : ReportsOn s rule report) (h' : ReportsOn s rule report') :
    report = report' := by
  obtain ⟨compiled, reported, hrule, rfl⟩ := h
  obtain ⟨compiled', reported', hrule', rfl⟩ := h'
  cases hrule.symm.trans hrule'
  rfl

theorem ReportsOn.rename (h : ReportsOn s rule report) (name : Text) :
    ReportsOn s (name, rule.2) { report with rule := name } := by
  obtain ⟨compiled, reported, hrule, rfl⟩ := h
  exact ⟨compiled, reported, hrule, rfl⟩

theorem exists_compile_of_compileRule {compiled : Rule} {reported : List Diagnostic}
    (h : compileRule s rule.2 = .ok (compiled, reported)) :
    ∃ more, Rule.compile s.registry (.tables s.integrations) (RuleAttributes.ofFields rule.2).1 =
      .ok (compiled, more) := by
  obtain ⟨⟨compiled', more⟩, hcompile, hout⟩ := Except.bind_eq_ok_iff.1 h
  obtain ⟨rfl, -⟩ := Prod.mk.inj (Except.ok.inj hout)
  exact ⟨more, hcompile⟩

theorem not_draws_of_compileRule {compiled : Rule} {reported : List Diagnostic}
    (h : compileRule s rule.2 = .ok (compiled, reported)) (hrandom : .random ∉ compiled.keys) :
    ∀ c ∈ compiled, c.check.draws = false := by
  obtain ⟨more, hcompile⟩ := exists_compile_of_compileRule h
  intro c hc
  have horigin : c.key ∈ c.check.origins := (Rule.has_and_mem_origins _ _ _ hcompile hc).2
  have hkey : c.key ≠ .random := fun hkey => hrandom (hkey ▸ List.mem_map_of_mem hc)
  exact Check.draws_eq_false_of_mem_origins horigin hkey

theorem ReportsOn.random_notMem (h : ReportsOn s rule report)
    (hfields : ∀ field ∈ rule.2, Key.ofName? field.1 ≠ some .random) :
    .random ∉ report.checks := by
  obtain ⟨compiled, reported, hrule, rfl⟩ := h
  obtain ⟨more, hcompile⟩ := exists_compile_of_compileRule hrule
  intro hrandom
  obtain ⟨c, hc, hkey⟩ := List.mem_map.1 hrandom
  have hhas := (Rule.has_and_mem_origins _ _ _ hcompile hc).1
  rw [hkey, Attributes.has_eq_true_iff, RuleAttributes.getList_ofFields] at hhas
  refine hhas (List.flatMap_eq_nil_iff.2 fun field hfield => ?_)
  exact RuleAttributes.given_of_name_ne (hfields field hfield)

theorem run_compile (hs : snapshotFor settings files snapshot = .ok s)
    (hrules : Document.loadRules files path = .ok rules)
    (h : List.Forall₂ (ReportsOn s) rules reports) :
    run settings files source (.compile path snapshot) =
      ⟨reports.map .report, .exit (Report.exitCode reports)⟩ := by
  have heach := compileEach_eq h false
  simp only [Bool.false_eq_true, if_false] at heach
  simpa only [run, withRules, hs, hrules] using heach

theorem run_evaluate {q : Text} (h : Finds settings files path (some q) s rules)
    (he : s.event = some e) (source : Nat → Number) :
    ∃ judged, List.Forall₂ (JudgesOn s e source) rules judged ∧
      run settings files source (.evaluate path q) = ⟨judged.map .report, .exit 0⟩ := by
  have heach : ∃ judged, List.Forall₂ (JudgesOn s e source) rules judged ∧
      evaluateEach s e source 0 rules = ⟨judged.map .report, .exit 0⟩ :=
    evaluateEach_eq h.compiles 0
  simpa only [run, withRules, h.snapshot_eq, h.rules_eq, he] using heach

theorem map_unjudged (h : List.Forall₂ (ReportsOn s) rules reports) {judged : List Report}
    (hjudged : List.Forall₂ (JudgesOn s e source) rules judged) :
    judged.map .unjudged = reports := by
  have hreports : List.Forall₂ (ReportsOn s) rules (judged.map .unjudged) :=
    List.forall₂_map_right_iff.2 (hjudged.imp fun _ _ => JudgesOn.reportsOn)
  have hunique : Relator.RightUnique (ReportsOn s) := fun _ _ _ h h' => h.unique h'
  exact List.right_unique_forall₂' hunique hreports h

/-- What is said of a rule depends on no other rule of its file. -/
structure StandsAlone (s : Snapshot) (rule : Text × Fields) (report : Report) : Prop where
  rule_eq : report.rule = rule.1
  /-- In a file of its own, under any name, the rule has the same report. -/
  alone : ∀ {settings : Settings} {files : Files} {path : Text} {snapshot : Option Text}
    {name : Text}, snapshotFor settings files snapshot = .ok s →
    Document.loadRules files path = .ok [(name, rule.2)] → ∀ source,
      run settings files source (.compile path snapshot) =
        ⟨[.report { report with rule := name }], .exit (Report.exitCode [report])⟩
  /-- Without random checks there is one verdict in all files, whatever numbers are drawn. -/
  verdict : ∀ {e : Event}, s.event = some e → Key.random ∉ report.checks →
    ∃ b, ∀ {settings : Settings} {files : Files} {path q : Text} {rules : List (Text × Fields)}
      {k : Nat} {name : Text}, Finds settings files path (some q) s rules →
      rules[k]? = some (name, rule.2) → ∀ source,
        (run settings files source (.evaluate path q)).printed[k]? =
          some (.report { report with rule := name, matched := some b })
  random_notMem : (∀ field ∈ rule.2, Key.ofName? field.1 ≠ some .random) →
    Key.random ∉ report.checks

/-- What the commands print for the rules of a file, when compiling them gives the reports. -/
structure RuleByRule (settings : Settings) (files : Files) (path : Text) (snapshot : Option Text)
    (s : Snapshot) (rules : List (Text × Fields)) (reports : List Report) : Prop where
  each : List.Forall₂ (StandsAlone s) rules reports
  compile_eq : ∀ source, run settings files source (.compile path snapshot) =
    ⟨reports.map .report, .exit (Report.exitCode reports)⟩
  evaluate_eq : ∀ {q : Text} {e : Event}, snapshot = some q → s.event = some e → ∀ source,
    ∃ judged : List Report, judged.map .unjudged = reports ∧
      (∀ report ∈ judged, report.matched.isSome) ∧
      run settings files source (.evaluate path q) = ⟨judged.map .report, .exit 0⟩

/-- The verdict on a rule when it is the first. -/
def verdictOn (s : Snapshot) (e : Event) (fields : Fields) : Bool :=
  match compileRule s fields with
  | .ok (compiled, _) => (compiled.run (.tables s.integrations) e (fun _ => .int 0) 0).1.matched
  | .error _ => false

theorem JudgesOn.matched_eq (h : JudgesOn s e source rule report)
    (hrandom : .random ∉ report.checks) : report.matched = some (verdictOn s e rule.2) := by
  obtain ⟨compiled, reported, used, hrule, rfl⟩ := h
  have hdraws := not_draws_of_compileRule hrule hrandom
  rw [verdictOn, hrule]
  dsimp only
  rw [Rule.run_of_not_draws _ e hdraws source (fun _ => .int 0) used 0]

theorem isSome_matched {judged : List Report}
    (h : List.Forall₂ (JudgesOn s e source) rules judged) :
    ∀ report ∈ judged, report.matched.isSome := by
  induction h with
  | nil => exact fun _ h => nomatch h
  | cons hrule _ ih =>
    obtain ⟨_, _, _, _, rfl⟩ := hrule
    exact List.forall_mem_cons.2 ⟨rfl, ih⟩

theorem eq_of_unjudged_eq {b : Bool} (hunjudged : report.unjudged = report'.unjudged)
    (hmatched : report.matched = some b) : report = { report' with matched := some b } := by
  cases report
  cases hmatched
  cases report'
  cases hunjudged
  rfl

theorem ReportsOn.unjudged_eq (h : ReportsOn s rule report) : report.unjudged = report := by
  obtain ⟨_, _, _, rfl⟩ := h
  rfl

theorem ReportsOn.standsAlone (h : ReportsOn s rule report) : StandsAlone s rule report where
  rule_eq := by
    obtain ⟨_, _, _, rfl⟩ := h
    rfl
  alone hs hrules source := by
    rw [run_compile hs hrules (.cons (h.rename _) .nil), exitCode_cons, exitCode_cons]
    rfl
  verdict := by
    intro e he hrandom
    refine ⟨verdictOn s e rule.2, ?_⟩
    intro settings files path q rules k name hfinds hrule source
    obtain ⟨judged, hjudged, hrun⟩ := run_evaluate hfinds he source
    obtain ⟨report', hreport', hjudges⟩ := hjudged.exists_getElem? hrule
    have hrenamed : ReportsOn s (name, rule.2) { report with rule := name } := h.rename name
    have hunjudged : report'.unjudged = { report with rule := name } :=
      hjudges.reportsOn.unique hrenamed
    have hchecks : report'.unjudged.checks = report.checks := by rw [hunjudged]
    have hmatched : report'.matched = some (verdictOn s e rule.2) :=
      hjudges.matched_eq fun hmem => hrandom (hchecks ▸ hmem)
    rw [hrun, List.getElem?_map, hreport',
      eq_of_unjudged_eq (hunjudged.trans hrenamed.unjudged_eq.symm) hmatched]
    rfl
  random_notMem := h.random_notMem

/-- Rules are treated one by one, and the commands agree on them. -/
theorem run_ruleByRule (h : Finds settings files path snapshot s rules) :
    ∃ reports, RuleByRule settings files path snapshot s rules reports := by
  have hreport (rule : Text × Fields) (hrule : rule ∈ rules) :
      ∃ report, ReportsOn s rule report := by
    obtain ⟨⟨compiled, reported⟩, hcompile⟩ := h.compiles rule hrule
    exact ⟨_, compiled, reported, hcompile, rfl⟩
  obtain ⟨reports, hreports⟩ := List.exists_forall₂ hreport
  refine ⟨reports, hreports.imp fun _ _ => ReportsOn.standsAlone,
    fun source => run_compile h.snapshot_eq h.rules_eq hreports, ?_⟩
  intro q e hq he source
  subst hq
  obtain ⟨judged, hjudged, hrun⟩ := run_evaluate h he source
  exact ⟨judged, map_unjudged hreports hjudged, isSome_matched hjudged, hrun⟩

/-- A file of two rules, the first of them with an error, and a snapshot with an event. -/
def twoRules : Files
  | .char 'e' :: _ => .bytes (Text.Utf8.encode "\x7b\"event\":\x7b\"pos\":[0,0,0]\x7d\x7d".toList)
  | _ => .bytes (Text.Utf8.encode "[\x7b\"weather\":\"snow\"\x7d,\x7b\"seesky\":true\x7d]".toList)

def weatherAndSky : List (Text × Fields) :=
  [("rule-1", [("weather", .str "snow")]), ("rule-2", [("seesky", .bool true)])]

theorem loadRules_twoRules : Document.loadRules twoRules "rules.json" = .ok weatherAndSky := by
  have hread : Document.read twoRules "rules.json" =
      .ok (.arr [.obj [("weather", .str "snow")], .obj [("seesky", .bool true)]]) := by
    with_unfolding_all rfl
  rw [Document.loadRules, hread]
  rfl

def originEvent : Json :=
  .obj [("event", .obj [("pos", .arr [.int 0, .int 0, .int 0])])]

theorem exists_snapshotFor_twoRules :
    ∃ s, snapshotFor {} twoRules (some "event.json") = .ok s ∧ s.event.isSome := by
  have hread : Document.read twoRules "event.json" = .ok originEvent := by
    with_unfolding_all rfl
  obtain ⟨s, hs, hevent⟩ : ∃ s, Document.snapshotOf [] originEvent = .ok s ∧ s.event.isSome :=
    ⟨_, rfl, rfl⟩
  refine ⟨s, ?_, hevent⟩
  rw [snapshotFor, Document.loadSnapshot, hread, Except.ok_bind, hs]
  rfl

theorem run_ruleByRule_twoRules : ∃ s reports, s.event.isSome ∧
    RuleByRule {} twoRules "rules.json" (some "event.json") s weatherAndSky reports := by
  obtain ⟨s, hs, hevent⟩ := exists_snapshotFor_twoRules
  have hcompiles : ∀ rule ∈ weatherAndSky, ∃ compiled, compileRule s rule.2 = .ok compiled := by
    simp only [weatherAndSky, List.forall_mem_cons]
    exact ⟨⟨_, rfl⟩, ⟨_, rfl⟩, List.forall_mem_nil _⟩
  obtain ⟨reports, hreports⟩ := run_ruleByRule ⟨hs, loadRules_twoRules, hcompiles⟩
  exact ⟨s, reports, hevent, hreports⟩

end Command
end RuleGate
