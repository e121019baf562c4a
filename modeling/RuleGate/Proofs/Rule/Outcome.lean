import Mathlib.Data.List.Nodup
import RuleGate.Proofs.Except
import RuleGate.Rule.Compile

/-!
# Outcomes of single keys

`outcome` is what one key comes to: a check or none, and what there is to report. Compiling a list
of keys returns exactly when each of them does, and then the checks and the report are those of the
single keys one after another (`compileKeys_eq_ok_iff`); otherwise some key of the list stops it
(`compileKeys_eq_error_iff`). The checks by themselves, or what stops them, are those of any
attributes whose keys come to the same checks (`map_fst_compileKeys_congr`).

A key reads its own values and no others, save that `block` also reads those of `blockoffset`
(`compileKey_congr`), so every fact about one key carries over to attributes that agree on it.
-/

namespace RuleGate

/-- Every key but `blockoffset` only depends on its own values. -/
theorem Check.compile_congr (r : Registry) {a b : RuleAttributes} {k : Key}
    (hk : a.getList k = b.getList k)
    (hb : k = .block → a.getList .blockOffset = b.getList .blockOffset) :
    compile r a k = compile r b k := by
  cases k with
  | block => simp only [compile, compileBlocks, hk, hb rfl]
  | blockOffset => rfl
  | _ => simp only [compile, hk]

theorem Key.mem_checkOrder {k : Key} : k ∈ checkOrder ↔ k ≠ .blockOffset := by
  cases k <;> decide

theorem Key.nodup_checkOrder : checkOrder.Nodup := by decide

namespace Rule

variable (r : Registry) (i : Integrations) (a : RuleAttributes)

theorem compileKey_congr {b : RuleAttributes} {k : Key} (hk : a.getList k = b.getList k)
    (hb : k = .block → a.getList .blockOffset = b.getList .blockOffset) :
    compileKey r i a k = compileKey r i b k := by
  have hhas : a.has k = b.has k := by
    change (!(a.getList k).isEmpty) = !(b.getList k).isEmpty
    rw [hk]
  unfold compileKey
  rw [hhas, Check.compile_congr r hk hb]

theorem compileKey_of_not_has {k : Key} (hk : a.has k = false) :
    compileKey r i a k = .ok .none := by
  unfold compileKey
  rw [hk]
  rfl

/-- What a key comes to, and nothing where compiling it stops. -/
def outcome (k : Key) : Outcome :=
  match compileKey r i a k with
  | .ok o => o
  | .error _ => .none

theorem outcome_of_eq_ok {k : Key} {o : Outcome} (h : compileKey r i a k = .ok o) :
    outcome r i a k = o := by
  simp only [outcome, h]

def checkOf (k : Key) : Rule :=
  ((outcome r i a k).check.map (CompiledCheck.mk k)).toList

def reportOf (k : Key) : List Diagnostic :=
  (outcome r i a k).diagnostics

theorem keys_checkOf (k : Key) :
    keys (checkOf r i a k) = if (outcome r i a k).check.isSome then [k] else [] := by
  unfold checkOf keys
  cases (outcome r i a k).check <;> simp

theorem keys_append (p q : Rule) : keys (p ++ q) = keys p ++ keys q := by
  simp [keys]

theorem keys_flatMap_checkOf (ks : List Key) :
    keys (ks.flatMap (checkOf r i a)) = ks.filter fun k => (outcome r i a k).check.isSome := by
  induction ks with
  | nil => rfl
  | cons k rest ih =>
    rw [List.flatMap_cons, keys_append, ih, keys_checkOf]
    by_cases hk : (outcome r i a k).check.isSome <;> simp [hk]

theorem compileKeys_eq_ok_iff {ks : List Key} {out : Rule × List Diagnostic} :
    compileKeys r i a ks = .ok out ↔
      (∀ k ∈ ks, compileKey r i a k = .ok (outcome r i a k)) ∧
        out = (ks.flatMap (checkOf r i a), ks.flatMap (reportOf r i a)) := by
  induction ks generalizing out with
  | nil => simp [compileKeys, eq_comm]
  | cons k rest ih =>
    simp only [compileKeys, Except.bind_eq_ok_iff, List.forall_mem_cons, List.flatMap_cons]
    constructor
    · rintro ⟨o, ho, ⟨rule, reported⟩, hrest, hout⟩
      obtain ⟨hall, heq⟩ := ih.1 hrest
      obtain ⟨rfl, rfl⟩ := Prod.mk.inj heq
      have hk := outcome_of_eq_ok r i a ho
      refine ⟨⟨by rw [hk, ho], hall⟩, ?_⟩
      rw [checkOf, reportOf, hk]
      exact (Except.ok.inj hout).symm
    · rintro ⟨⟨hk, hall⟩, rfl⟩
      exact ⟨_, hk, _, ih.2 ⟨hall, rfl⟩, rfl⟩

theorem compileKeys_eq_error_iff {ks : List Key} :
    (∃ f, compileKeys r i a ks = .error f) ↔ ∃ k ∈ ks, ∃ f, compileKey r i a k = .error f := by
  induction ks with
  | nil => simp [compileKeys]
  | cons k rest ih =>
    cases hk : compileKey r i a k with
    | error f => simp [compileKeys, hk, bind, Except.bind]
    | ok o =>
      simp only [List.exists_mem_cons_iff, hk, reduceCtorEq, exists_false, false_or, ← ih,
        compileKeys, Except.bind_eq_error_iff]
      constructor
      · rintro ⟨f, _, _, hf | ⟨_, _, hf⟩⟩
        · exact ⟨f, hf⟩
        · cases hf
      · rintro ⟨f, hf⟩
        exact ⟨f, o, rfl, .inl hf⟩

theorem compile_eq_ok_iff {rule : Rule} {reported : List Diagnostic} :
    compile r i a = .ok (rule, reported) ↔
      (∀ k ∈ Key.checkOrder, compileKey r i a k = .ok (outcome r i a k)) ∧
        rule = Key.checkOrder.flatMap (checkOf r i a) ∧
        reported = Key.checkOrder.flatMap (reportOf r i a) := by
  rw [compile, compileKeys_eq_ok_iff, Prod.mk.injEq]

theorem compileKeys_of_not_has {ks : List Key} (h : ∀ k ∈ ks, a.has k = false) :
    compileKeys r i a ks = .ok ([], []) := by
  induction ks with
  | nil => rfl
  | cons k rest ih =>
    obtain ⟨hk, hrest⟩ := List.forall_mem_cons.1 h
    rw [compileKeys, compileKey_of_not_has r i a hk, ih hrest]
    rfl

theorem compileKeys_of_alone {ks : List Key} {k : Key} (hnd : ks.Nodup) (hk : k ∈ ks)
    (h : ∀ k' ∈ ks, k' ≠ k → a.has k' = false) :
    compileKeys r i a ks = (compileKey r i a k).map fun o =>
      ((o.check.map (CompiledCheck.mk k)).toList, o.diagnostics) := by
  induction ks with
  | nil => cases hk
  | cons k' rest ih =>
    obtain ⟨hk', hrest⟩ := List.nodup_cons.1 hnd
    obtain ⟨hfirst, hothers⟩ := List.forall_mem_cons.1 h
    rw [compileKeys]
    rcases List.mem_cons.1 hk with rfl | hk
    · rw [compileKeys_of_not_has r i a fun k' hmem =>
        hothers k' hmem fun heq => hk' (heq ▸ hmem)]
      cases compileKey r i a k <;> simp [Except.map]
    · rw [compileKey_of_not_has r i a (hfirst fun heq => hk' (heq ▸ hk)), ih hrest hk hothers]
      cases compileKey r i a k <;> simp [Except.map, Outcome.none]

/-- If no other key has a value, a rule is what its one key comes to. -/
theorem compile_of_alone {k : Key} (hk : k ∈ Key.checkOrder)
    (h : ∀ k' ∈ Key.checkOrder, k' ≠ k → a.has k' = false) :
    compile r i a = (compileKey r i a k).map fun o =>
      ((o.check.map (CompiledCheck.mk k)).toList, o.diagnostics) :=
  compileKeys_of_alone r i a Key.nodup_checkOrder hk h

theorem map_fst_compileKeys_cons (k : Key) (rest : List Key) :
    (compileKeys r i a (k :: rest)).map Prod.fst = (do
      let check ← (compileKey r i a k).map Outcome.check
      let checks ← (compileKeys r i a rest).map Prod.fst
      return (check.map (CompiledCheck.mk k)).toList ++ checks) := by
  rw [compileKeys]
  cases compileKey r i a k with
  | error f => rfl
  | ok o => cases compileKeys r i a rest <;> rfl

theorem compileKeys_congr {i' : Integrations} {b : RuleAttributes} {ks : List Key}
    (h : ∀ k ∈ ks, compileKey r i a k = compileKey r i' b k) :
    compileKeys r i a ks = compileKeys r i' b ks := by
  induction ks with
  | nil => rfl
  | cons k rest ih =>
    obtain ⟨hk, hrest⟩ := List.forall_mem_cons.1 h
    rw [compileKeys, compileKeys, hk, ih hrest]

theorem compile_congr_supports {i i' : Integrations} (h : ∀ c, i.supports c = i'.supports c) :
    compile r i a = compile r i' a :=
  compileKeys_congr r i a fun k _ => by simp only [compileKey, missing?, h]

theorem map_fst_compileKeys_congr {b : RuleAttributes} {ks : List Key}
    (h : ∀ k ∈ ks, (compileKey r i a k).map Outcome.check =
      (compileKey r i b k).map Outcome.check) :
    (compileKeys r i a ks).map Prod.fst = (compileKeys r i b ks).map Prod.fst := by
  induction ks with
  | nil => rfl
  | cons k rest ih =>
    obtain ⟨hk, hrest⟩ := List.forall_mem_cons.1 h
    rw [map_fst_compileKeys_cons, map_fst_compileKeys_cons, hk, ih hrest]

variable {r i a} {rule : Rule} {reported : List Diagnostic}

theorem compileKey_eq_ok (h : compile r i a = .ok (rule, reported)) {k : Key}
    (hk : k ∈ Key.checkOrder) : compileKey r i a k = .ok (outcome r i a k) :=
  ((compile_eq_ok_iff r i a).1 h).1 k hk

theorem mem_keys_iff (h : compile r i a = .ok (rule, reported)) {k : Key}
    (hk : k ∈ Key.checkOrder) : k ∈ rule.keys ↔ (outcome r i a k).check.isSome := by
  obtain ⟨_, rfl, _⟩ := (compile_eq_ok_iff r i a).1 h
  rw [keys_flatMap_checkOf, List.mem_filter, and_iff_right hk]

theorem reportOf_infix (h : compile r i a = .ok (rule, reported)) {k : Key}
    (hk : k ∈ Key.checkOrder) : reportOf r i a k <:+: reported := by
  obtain ⟨_, _, rfl⟩ := (compile_eq_ok_iff r i a).1 h
  rw [List.flatMap_def]
  exact List.infix_of_mem_flatten (List.mem_map_of_mem hk)

end Rule
end RuleGate
