import RuleGate.Command.Run
import RuleGate.Proofs.Json.Reader
import RuleGate.Proofs.Schema
import RuleGate.Proofs.Text.Utf8

/-!
# What becomes of a file

Loading a document gives its content or an error that is reported, whatever the file holds, with two
exceptions: bytes that are no text, and an integer with more digits than are ever read. Apart from
these (`FileResult.Answerable`) rules come in the order of the file, and a command either has all
its documents or answers with one error and ends with code two (`Document.load_answers`).
-/

namespace RuleGate

/-- What the file holds is text, and reading it does not give up. -/
def FileResult.Answerable : FileResult → Prop
  | .bytes content => ∃ cs : List Char, content = Text.Utf8.encode cs ∧
      ∀ digits, ¬ Json.GivesUp digits (.value []) (Json.tokens 0 (Text.lineFeeds (cs.map .char)))
  | .fault _ _ => True
  | .badPath _ => False

/-- There is a document, or an error that is reported. -/
def LoadError.Answers {α : Type} (x : Except LoadError α) : Prop :=
  (∃ a, x = .ok a) ∨ ∃ e, x = .error e ∧ e.isReported

theorem LoadError.Answers.isReported {α : Type} {x : Except LoadError α} {e : LoadError}
    (h : Answers x) (hx : x = .error e) : e.isReported := by
  obtain ⟨a, ha⟩ | ⟨e', he', hreported⟩ := h
  · cases hx.symm.trans ha
  · obtain rfl := Except.error.inj (hx.symm.trans he')
    exact hreported

theorem LoadError.exists_of_not_answers {α : Type} {x : Except LoadError α} (h : ¬ Answers x) :
    ∃ e, x = .error e ∧ e.isReported = false := by
  cases x with
  | ok a => exact absurd (.inl ⟨a, rfl⟩) h
  | error e => exact ⟨e, rfl, Bool.eq_false_iff.2 fun he => h (.inr ⟨e, rfl, he⟩)⟩

namespace Document

variable {files : Files} {path : Text} {kind : DocumentKind}

theorem parse_reported_iff {text : Text} :
    (∀ f, parse text = .error f → (LoadError.mk kind path f).isReported) ↔
      ∀ digits, ¬ Json.GivesUp digits (.value []) (Json.tokens 0 text) := by
  simp only [← Json.read_eq_tooLong_iff]
  unfold parse
  rcases Json.read text with (e | digits) | v <;> simp [LoadError.isReported]

/-- A file is answerable exactly if every fault of reading it is reported. -/
theorem answerable_iff (kind : DocumentKind) : (files path).Answerable ↔
    ∀ f, read files path = .error f → (LoadError.mk kind path f).isReported := by
  unfold read
  cases files path with
  | fault f shown => simp [FileResult.Answerable, LoadError.isReported]
  | badPath f => simp [FileResult.Answerable, LoadError.isReported]
  | bytes content =>
    dsimp only
    cases hdecode : Text.Utf8.decode content with
    | error f =>
      refine iff_of_false ?_ (by simp [LoadError.isReported])
      rintro ⟨cs, rfl, _⟩
      rw [Text.Utf8.decode_eq_ok_iff.2 ⟨cs, rfl, rfl⟩] at hdecode
      cases hdecode
    | ok text =>
      dsimp only
      rw [parse_reported_iff]
      constructor
      · rintro ⟨cs, rfl, h⟩
        rw [Text.Utf8.decode_eq_ok_iff.2 ⟨cs, rfl, rfl⟩] at hdecode
        rwa [← Except.ok.inj hdecode]
      · intro h
        obtain ⟨cs, rfl, rfl⟩ := Text.Utf8.decode_eq_ok_iff.1 hdecode
        exact ⟨cs, rfl, h⟩

theorem length_lineFeeds_le (t : Text) : (Text.lineFeeds t).length ≤ t.length := by
  induction t using Text.lineFeeds.induct with
  | case1 => exact Nat.le_refl _
  | case2 rest ih => exact Nat.le_succ_of_le (Nat.succ_le_succ ih)
  | case3 rest hrest ih =>
    rw [Text.lineFeeds.eq_3 _ hrest]
    exact Nat.succ_le_succ ih
  | case4 c rest h₁ h₂ ih =>
    rw [Text.lineFeeds.eq_4 _ _ h₁ h₂]
    exact Nat.succ_le_succ ih

/-- A text with no more characters than an integer may have digits is short enough to be read. -/
theorem answerable_of_length_le {cs : List Char} (h : files path = .bytes (Text.Utf8.encode cs))
    (hlength : cs.length ≤ NumberFault.digitLimit) : (files path).Answerable := by
  rw [h]
  refine ⟨cs, rfl, fun digits hdigits => ?_⟩
  obtain ⟨hlong, run, hrun, hcount, -⟩ :=
    Json.runOfDigits_of_tooLong (Json.read_eq_tooLong_iff.2 hdigits)
  have hshort := (hrun.length_le).trans (length_lineFeeds_le _)
  rw [List.length_map] at hshort
  omega

/-- If all faults of what is made of the value are reported, only reading the file matters. -/
theorem answers_load_iff {α : Type} {make : Json → Except LoadFault α}
    (hmake : ∀ v f, make v = .error f → (LoadError.mk kind path f).isReported) :
    LoadError.Answers ((read files path >>= make).mapError (LoadError.mk kind path)) ↔
      (files path).Answerable := by
  rw [answerable_iff kind, LoadError.Answers]
  cases hread : read files path with
  | error f =>
    constructor
    · rintro (⟨a, ha⟩ | ⟨e, he, hreported⟩)
      · cases ha
      · rintro f' ⟨⟩
        cases he
        exact hreported
    · intro h
      exact .inr ⟨_, rfl, h f rfl⟩
  | ok v =>
    refine iff_of_true ?_ fun f hf => nomatch hf
    cases hv : make v with
    | ok a => exact .inl ⟨a, by rw [Except.ok_bind, hv]; rfl⟩
    | error f => exact .inr ⟨_, by rw [Except.ok_bind, hv]; rfl, hmake v f hv⟩

theorem rulesFrom_error {index : Nat} {vs : List Json} {f : LoadFault}
    (h : rulesFrom index vs = .error f) : (LoadError.mk kind path f).isReported := by
  induction vs generalizing index with
  | nil => cases h
  | cons v rest ih =>
    cases v with
    | obj fields => exact ih (Except.map_eq_error_iff.1 h)
    | _ =>
      cases h
      rfl

theorem rulesOf_eq (v : Json) : rulesOf v = rulesFrom 1 (RuleAttributes.itemsOf v) := by
  cases v <;> rfl

theorem snapshotOf_error {default : List Capability} {v : Json} {f : LoadFault}
    (h : snapshotOf default v = .error f) : (LoadError.mk kind path f).isReported := by
  unfold snapshotOf at h
  split at h <;> cases h
  rfl

theorem answers_loadSnapshot_iff (default : List Capability) :
    LoadError.Answers (loadSnapshot default files path) ↔ (files path).Answerable :=
  answers_load_iff fun _ _ => snapshotOf_error

theorem answers_loadRules_iff :
    LoadError.Answers (loadRules files path) ↔ (files path).Answerable :=
  answers_load_iff fun v _ h => rulesFrom_error (rulesOf_eq v ▸ h)

/-- Rules that are counted from an index go by their names. -/
def Named (index : Nat) (rules : List (Text × Fields)) : Prop :=
  ∀ k r, rules[k]? = some r → r.1 = ruleName (index + k) r.2

theorem named_cons_iff {index : Nat} {r : Text × Fields} {rules : List (Text × Fields)} :
    Named index (r :: rules) ↔ r.1 = ruleName index r.2 ∧ Named (index + 1) rules := by
  constructor
  · intro h
    refine ⟨h 0 r rfl, fun k r' hk => ?_⟩
    have hname := h (k + 1) r' hk
    rwa [Nat.add_comm k, ← Nat.add_assoc] at hname
  · rintro ⟨hr, hrules⟩ k r' hk
    cases k with
    | zero =>
      obtain rfl := Option.some.inj hk
      exact hr
    | succ k =>
      have hname := hrules k r' hk
      rwa [Nat.add_assoc, Nat.add_comm 1] at hname

theorem rulesFrom_cons_eq_ok_iff {index : Nat} {v : Json} {vs : List Json}
    {rules : List (Text × Fields)} :
    rulesFrom index (v :: vs) = .ok rules ↔ ∃ fields rest, v = .obj fields ∧
      rulesFrom (index + 1) vs = .ok rest ∧ rules = (ruleName index fields, fields) :: rest := by
  cases v with
  | obj fields =>
    rw [rulesFrom, Except.map_eq_ok_iff]
    constructor
    · rintro ⟨rest, hrest, rfl⟩
      exact ⟨fields, rest, rfl, hrest, rfl⟩
    · rintro ⟨_, rest, hfields, hrest, rfl⟩
      obtain rfl := Json.obj.inj hfields
      exact ⟨rest, hrest, rfl⟩
  | _ => simp [rulesFrom]

/-- The items of a document, in their order, are the objects of rules that are counted from one. -/
def ListsRules (v : Json) (rules : List (Text × Fields)) : Prop :=
  RuleAttributes.itemsOf v = rules.map (fun r => .obj r.2) ∧ Named 1 rules

theorem rulesFrom_eq_ok_iff {index : Nat} {vs : List Json} {rules : List (Text × Fields)} :
    rulesFrom index vs = .ok rules ↔ vs = rules.map (fun r => .obj r.2) ∧ Named index rules := by
  induction vs generalizing index rules with
  | nil => cases rules <;> simp [rulesFrom, Named]
  | cons v vs ih =>
    rw [rulesFrom_cons_eq_ok_iff]
    constructor
    · rintro ⟨fields, rest, rfl, hrest, rfl⟩
      obtain ⟨rfl, hnamed⟩ := ih.1 hrest
      exact ⟨rfl, named_cons_iff.2 ⟨rfl, hnamed⟩⟩
    · rintro ⟨hvs, hnamed⟩
      cases rules with
      | nil => cases hvs
      | cons r rest =>
        obtain ⟨rfl, htail⟩ := List.cons.inj hvs
        obtain ⟨hname, hnamed⟩ := named_cons_iff.1 hnamed
        exact ⟨r.2, rest, rfl, ih.2 ⟨htail, hnamed⟩, by rw [← hname]⟩

theorem loadRules_eq_ok_iff {rules : List (Text × Fields)} :
    loadRules files path = .ok rules ↔ ∃ v, read files path = .ok v ∧ ListsRules v rules := by
  simp only [loadRules, Except.mapError_eq_ok_iff, Except.bind_eq_ok_iff, rulesOf_eq,
    rulesFrom_eq_ok_iff, ListsRules]

end Document
end RuleGate
