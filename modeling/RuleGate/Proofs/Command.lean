import RuleGate.Proofs.Document

/-!
# Commands and their documents

A command either has all its documents or answers with one error and ends with code two, if each of
its files can be answered for (`loads_or_refuses`); once the documents are there nothing of them
ends the program (`ending_ne_load`). With what becomes of a single file this is `load_answers`.
-/

namespace RuleGate

theorem Session.ending_withPrinted (p : Printed) (s : Session) :
    (s.withPrinted p).ending = s.ending := rfl

namespace Command

variable {settings : Settings} {files : Files} {source : Nat → Number} {c : Command}
  {s : Snapshot} {path : Text} {e : LoadError}

/-- Every document of a command can be loaded. -/
def Loads (settings : Settings) (files : Files) : Command → Prop
  | keys => True
  | compile rules snapshot =>
    (∃ s, snapshotFor settings files snapshot = .ok s) ∧
      ∃ rs, Document.loadRules files rules = .ok rs
  | evaluate rules snapshot =>
    (∃ s, snapshotFor settings files (some snapshot) = .ok s) ∧
      ∃ rs, Document.loadRules files rules = .ok rs

theorem compileEach_ending_ne_load {failed : Bool} (rules : List (Text × Fields)) (e : LoadError) :
    (compileEach s failed rules).ending ≠ .load e := by
  induction rules generalizing failed with
  | nil => exact fun h => nomatch h
  | cons r rest ih =>
    rw [compileEach]
    cases compileRule s r.2 with
    | error f => exact fun h => nomatch h
    | ok compiled =>
      dsimp only
      rw [Session.ending_withPrinted]
      exact ih

theorem evaluateEach_ending_ne_load {event : Event} {used : Nat} (rules : List (Text × Fields))
    (e : LoadError) : (evaluateEach s event source used rules).ending ≠ .load e := by
  induction rules generalizing used with
  | nil => exact fun h => nomatch h
  | cons r rest ih =>
    rw [evaluateEach]
    cases compileRule s r.2 with
    | error f => exact fun h => nomatch h
    | ok compiled =>
      dsimp only
      rw [Session.ending_withPrinted]
      exact ih

theorem exists_snapshotFor_none (settings : Settings) (files : Files) :
    ∃ s, snapshotFor settings files none = .ok s :=
  ⟨_, rfl⟩

theorem ofLoadError_of_isReported (h : e.isReported) :
    Session.ofLoadError e = .refuse e.message :=
  if_pos h

theorem answers_snapshotFor {snapshot : Option Text}
    (hpaths : ∀ q ∈ snapshot, (files q).Answerable) :
    LoadError.Answers (snapshotFor settings files snapshot) := by
  cases snapshot with
  | none => exact .inl (exists_snapshotFor_none settings files)
  | some q => exact (Document.answers_loadSnapshot_iff _).2 (hpaths q rfl)

theorem withRules_loads_or_refuses (hpath : (files path).Answerable)
    (f : List (Text × Fields) → Session) (hf : ∀ rs e, (f rs).ending ≠ .load e) :
    ((∃ rs, Document.loadRules files path = .ok rs) ∧
        ∀ e, (withRules files path f).ending ≠ .load e) ∨
      ∃ message, withRules files path f = .refuse message := by
  have hanswers := Document.answers_loadRules_iff.2 hpath
  unfold withRules
  cases hrules : Document.loadRules files path with
  | ok rs => exact .inl ⟨⟨rs, rfl⟩, hf rs⟩
  | error e => exact .inr ⟨_, ofLoadError_of_isReported (hanswers.isReported hrules)⟩

/-- A command that is short of a document prints one error and ends with code two. -/
theorem loads_or_refuses (source : Nat → Number) (hpaths : ∀ q ∈ c.paths, (files q).Answerable) :
    (Loads settings files c ∧ ∀ e, (run settings files source c).ending ≠ .load e) ∨
      ∃ message, run settings files source c = .refuse message := by
  cases c with
  | keys => exact .inl ⟨trivial, fun _ h => nomatch h⟩
  | compile rules snapshot =>
    have hsnapshot : LoadError.Answers (snapshotFor settings files snapshot) :=
      answers_snapshotFor fun q hq => hpaths q (List.mem_cons_of_mem _ (Option.mem_toList.2 hq))
    dsimp only [run]
    cases hs : snapshotFor settings files snapshot with
    | error e => exact .inr ⟨_, ofLoadError_of_isReported (hsnapshot.isReported hs)⟩
    | ok s =>
      have hrules := withRules_loads_or_refuses (hpaths rules List.mem_cons_self)
        (compileEach s false) compileEach_ending_ne_load
      exact hrules.imp_left fun ⟨hloads, hending⟩ => ⟨⟨⟨s, hs⟩, hloads⟩, hending⟩
  | evaluate rules snapshot =>
    have hsnapshot : LoadError.Answers (snapshotFor settings files (some snapshot)) := by
      refine answers_snapshotFor fun q hq => ?_
      obtain rfl := Option.some.inj hq
      exact hpaths snapshot (List.mem_cons_of_mem _ List.mem_cons_self)
    dsimp only [run]
    cases hs : snapshotFor settings files (some snapshot) with
    | error e => exact .inr ⟨_, ofLoadError_of_isReported (hsnapshot.isReported hs)⟩
    | ok s =>
      dsimp only
      cases s.event with
      | none => exact .inr ⟨_, rfl⟩
      | some event =>
        have hrules := withRules_loads_or_refuses (hpaths rules List.mem_cons_self)
          (evaluateEach s event source 0) evaluateEach_ending_ne_load
        exact hrules.imp_left fun ⟨hloads, hending⟩ => ⟨⟨⟨s, hs⟩, hloads⟩, hending⟩

theorem ending_ne_load (hpaths : ∀ q ∈ c.paths, (files q).Answerable) (e : LoadError) :
    (run settings files source c).ending ≠ .load e := by
  obtain ⟨-, hending⟩ | ⟨message, hrun⟩ := loads_or_refuses source hpaths
  · exact hending e
  · rw [hrun]
    exact fun h => nomatch h

/-- Rules that cannot be answered for end the command that compiles them. -/
theorem answerable_of_ending_ne_load
    (h : ∀ e, (run settings files source (.compile path none)).ending ≠ .load e) :
    (files path).Answerable := by
  by_contra hpath
  obtain ⟨e, hrules, hreported⟩ :=
    LoadError.exists_of_not_answers (mt Document.answers_loadRules_iff.1 hpath)
  obtain ⟨s, hs⟩ := exists_snapshotFor_none settings files
  refine h e ?_
  simp only [run, hs, withRules, hrules, Session.ofLoadError, hreported]
  rfl

/-- A file that can be answered for gives a document or an error that is reported, and its rules
come in their order; otherwise what it holds ends the program. A command all of whose files can be
answered for has its documents or prints one error and ends with code two. -/
theorem load_answers (files : Files) (path : Text) :
    ((files path).Answerable ↔
        ∀ default, LoadError.Answers (Document.loadSnapshot default files path)) ∧
      ((files path).Answerable ↔ LoadError.Answers (Document.loadRules files path)) ∧
      (∀ rules, Document.loadRules files path = .ok rules ↔
        ∃ v, Document.read files path = .ok v ∧ Document.ListsRules v rules) ∧
      ((files path).Answerable ↔
        ∀ settings source e, (run settings files source (.compile path none)).ending ≠ .load e) ∧
      ∀ settings source c, (∀ q ∈ c.paths, (files q).Answerable) →
        (∀ e, (run settings files source c).ending ≠ .load e) ∧
          (Loads settings files c ∨
            ∃ message, run settings files source c = ⟨[.error message], .exit 2⟩) := by
  refine ⟨?_, Document.answers_loadRules_iff.symm, fun rules => Document.loadRules_eq_ok_iff,
    ?_, ?_⟩
  · simp only [Document.answers_loadSnapshot_iff, forall_const]
  · constructor
    · intro hpath settings source e
      refine ending_ne_load (fun q hq => ?_) e
      obtain rfl := List.mem_singleton.1 hq
      exact hpath
    · intro h
      exact answerable_of_ending_ne_load (h {} fun _ => .int 0)
  · intro settings source c hpaths
    exact ⟨ending_ne_load hpaths, (loads_or_refuses source hpaths).imp_left And.left⟩

/-- Every file holds a brace that is never closed. -/
def openBrace : Files := fun _ => .bytes (Text.Utf8.encode ['{'])

theorem read_openBrace (path : Text) : Document.read openBrace path =
    .error (.malformed "\x7b" ⟨.propertyName, 1⟩) := by
  have htokens : Json.tokens 0 "\x7b" = [⟨.openObject, 0⟩, ⟨.finish, 1⟩] :=
    (Json.tokens_cons rfl 0 []).trans (by rw [List.drop_nil, Json.tokens]; rfl)
  have hread : Json.read "\x7b" = .error (.malformed ⟨.propertyName, 1⟩) := by
    change Json.State.run (.value []) (Json.tokens 0 "\x7b") = _
    rw [htokens]
    rfl
  change Document.parse "\x7b" = _
  rw [Document.parse, hread]

theorem not_loads_openBrace (rules snapshot : Text) :
    ¬ Loads {} openBrace (.evaluate rules snapshot) := by
  rintro ⟨-, rs, hrs⟩
  obtain ⟨v, hv, -⟩ := Document.loadRules_eq_ok_iff.1 hrs
  cases hv.symm.trans (read_openBrace rules)

theorem load_answers_openBrace :
    ∃ message, run {} openBrace (fun _ => .int 0) (.evaluate "rules.json" "event.json") =
      ⟨[.error message], .exit 2⟩ := by
  have hcommand := (load_answers openBrace "rules.json").2.2.2.2 {} (fun _ => .int 0)
    (.evaluate "rules.json" "event.json")
    fun _ _ => Document.answerable_of_length_le rfl (by decide)
  exact hcommand.2.resolve_left (not_loads_openBrace "rules.json" "event.json")

/-- Every file holds one byte that begins no character. -/
def strayByte : Files := fun _ => .bytes [0xff]

/-- The byte is no text, and this is not reported but ends the program. -/
theorem strayByte_not_answered :
    ¬ LoadError.Answers (Document.loadSnapshot [] strayByte "event.json") ∧
      ¬ LoadError.Answers (Document.loadRules strayByte "rules.json") ∧
      run {} strayByte (fun _ => .int 0) (.evaluate "rules.json" "event.json") =
        ⟨[], .load ⟨.snapshot, "event.json", .encoding ⟨0xff, 0, 1, .start⟩⟩⟩ := by
  refine ⟨?_, ?_, rfl⟩
  · rintro (⟨s, hs⟩ | ⟨e, he, hreported⟩)
    · cases hs
    · cases he
      cases hreported
  · rintro (⟨rs, hrs⟩ | ⟨e, he, hreported⟩)
    · cases hrs
    · cases he
      cases hreported

end Command
end RuleGate
