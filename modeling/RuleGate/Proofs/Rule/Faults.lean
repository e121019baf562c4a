import RuleGate.Proofs.Descriptor.Blocks
import RuleGate.Proofs.Rule.Kinds

/-!
# When compiling a rule stops

Whatever is wrong with a description, compiling goes on without it, unless it is *faulty*: a number
in it is not finite or has too many digits. `compile_ofFields` says exactly when the rule of a JSON
object compiles, and what has then become of each of its keys. The rule in
`compile_stops_at_infinity` is one that does not compile.
-/

namespace RuleGate

namespace Check

variable (r : Registry) (a : RuleAttributes)

/-- A description of a key at which compiling stops. Blocks are only read if the offset compiles,
and up to the first that fails; of items all entries are read. -/
inductive Faulty : Key → Prop
  | offset {raw : Json} (hraw : (a.described .blockOffset).head? = some raw)
      (h : Descriptor.Faulty raw) : Faulty .block
  | block
      (ho : ∀ raw, (a.described .blockOffset).head? = some raw → ∃ o, Offset.compile raw = .ok o)
      (h : Reaches (fun raw => ∃ compiled, BlockTest.compile r raw = .ok compiled)
        (BlockTest.Faulty r) (a.described .block)) : Faulty .block
  | item {k : Key} {entry : Json} (hk : k.itemCheck?.isSome) (hentry : entry ∈ a.entries k)
      (h : ItemTest.Faulty r entry) : Faulty k

theorem offsetOf_eq (vs : List Json) :
    offsetOf vs = Descriptor.onPart Offset.compile vs.head? := by
  cases vs <;> rfl

theorem blocksAt_eq_error_iff {offsets wanted : List Json} :
    (∃ f, blocksAt r offsets wanted = .error f) ↔ Failure.Stuck (offsetOf offsets) ∨
      (∃ offset, offsetOf offsets = .ok offset) ∧ ∃ f, blocksOf r wanted = .error f := by
  unfold blocksAt
  rcases offsetOf offsets with (e | f) | offset
  · simp
  · simp
  · simp [Except.bind_eq_error_iff]

theorem accounted_of_compileBlocks {o : Outcome} (h : compileBlocks r a = .ok o)
    (hcheck : o.check.isSome) :
    ∀ raw ∈ a.described .block, BlockTest.Accounted r o.diagnostics raw := by
  rw [compileBlocks_eq] at h
  rcases blocksAt_cases h with ⟨e, rfl⟩ | ⟨e, _, rfl⟩ | ⟨_, tests, reported, _, htests, rfl⟩
  · cases hcheck
  · cases hcheck
  · exact accounted_of_blocksOf r htests

theorem faulty_block_iff : Faulty r a .block ↔ ∃ f, compileBlocks r a = .error f := by
  rw [compileBlocks_eq, blocksAt_eq_error_iff, blocksOf_eq_error_iff, offsetOf_eq,
    Descriptor.stuck_onPart, Descriptor.onPart_ok_iff]
  constructor
  · intro h
    cases h with
    | offset hraw h => exact .inl ⟨_, hraw, Offset.stuck_compile_iff.2 h⟩
    | block ho h => exact .inr ⟨ho, h⟩
    | item hk => cases hk
  · rintro (⟨raw, hraw, h⟩ | ⟨ho, h⟩)
    · exact .offset hraw (Offset.stuck_compile_iff.1 h)
    · exact .block ho h

theorem faulty_item_iff {k : Key} {f : List ItemTest → Check} (hf : k.itemCheck? = some f) :
    Faulty r a k ↔ ∃ fault, compileItems r (a.described k) f = .error fault := by
  have hitem : Faulty r a k ↔ ∃ entry ∈ a.entries k, ItemTest.Faulty r entry := by
    constructor
    · intro h
      cases h with
      | item _ hentry h => exact ⟨_, hentry, h⟩
      | _ => cases hf
    · rintro ⟨entry, hentry, h⟩
      exact .item (Option.isSome_iff_exists.2 ⟨f, hf⟩) hentry h
  simp only [hitem, compileItems, Except.bind_eq_error_iff, ItemTest.compileAll_eq]
  simp only [← ItemTest.stuck_compile_iff, RuleAttributes.entries,
    ← ItemTest.compileEntries_eq_error_iff]
  simp

theorem compile_eq_error_iff {k : Key} (hhas : a.has k) (ho : k ∈ Key.checkOrder) :
    (∃ f, compile r a k = .error f) ↔ Faulty r a k := by
  cases hf : k.itemCheck? with
  | some f => rw [compile_of_itemCheck? r a hf, faulty_item_iff r a hf]
  | none =>
    by_cases hb : k = .block
    · subst hb
      exact (faulty_block_iff r a).symm
    · obtain ⟨x, hx⟩ := exists_compile_eq_ofResult r a hhas ho hb hf
      refine iff_of_false (by simp [hx]) fun h => ?_
      cases h with
      | item hk => simp [hf] at hk
      | _ => exact hb rfl

end Check

namespace Rule

variable (r : Registry) (i : Integrations) (a : RuleAttributes)

/-- A key at which compiling stops: it has the capability it needs, and a faulty description. -/
def Faulty (k : Key) : Prop :=
  a.has k ∧ missing? i k = none ∧ Check.Faulty r a k

theorem compileKey_eq_error_iff {k : Key} (ho : k ∈ Key.checkOrder) :
    (∃ f, compileKey r i a k = .error f) ↔ Faulty r i a k := by
  unfold Faulty
  by_cases hhas : a.has k
  · cases hc : missing? i k with
    | some c => simp [compileKey_of_missing r i a hhas hc]
    | none =>
      rw [compileKey_of_not_missing r i a hhas hc, Check.compile_eq_error_iff r a hhas ho]
      simp [hhas]
  · rw [compileKey_of_not_has r i a (Bool.eq_false_iff.2 hhas)]
    simp [hhas]

theorem exists_compile_eq_ok_iff :
    (∃ out, compile r i a = .ok out) ↔ ∀ k ∈ Key.checkOrder, ¬ Faulty r i a k := by
  rw [← not_iff_not, ← Except.exists_eq_error_iff, compile, compileKeys_eq_error_iff]
  push Not
  apply exists_congr
  intro k
  apply and_congr_right
  intro hk
  exact compileKey_eq_error_iff r i a hk

/-- What has become of a key that is there. Its own report is part of the report of the rule. -/
structure Recovered (rule : Rule) (reported : List Diagnostic) (k : Key) : Prop where
  own_infix : reportOf r i a k <:+: reported
  /-- A check that is left out has its reason in the report, unless it is one of items. -/
  explained : k ∉ rule.keys → (k.itemCheck? = none ∨ missing? i k ≠ none) →
    ∃ e, .omitted e ∈ reportOf r i a k
  /-- A check of items is left out if no entry compiles. -/
  compiled_iff : missing? i k = none → k.itemCheck?.isSome →
    (k ∈ rule.keys ↔ ∃ entry ∈ a.entries k, ∃ t, ItemTest.compile r entry = .ok t)
  /-- An entry that is left out has its reason in the report. -/
  entries : missing? i k = none → k.itemCheck?.isSome →
    ∀ entry ∈ a.entries k, ItemTest.Accounted r (reportOf r i a k) entry
  /-- A check of blocks needs all of them to compile. -/
  blocks : k = .block → k ∈ rule.keys →
    ∀ raw ∈ a.described .block, BlockTest.Accounted r (reportOf r i a k) raw

theorem recovered_of_compile {rule : Rule} {reported : List Diagnostic}
    (h : compile r i a = .ok (rule, reported)) {k : Key} (hk : k ∈ Key.checkOrder)
    (hhas : a.has k) : Recovered r i a rule reported k where
  own_infix := reportOf_infix h hk
  explained hnot hkind := by
    rcases explained_of_compileKey r i a hhas hk hkind (compileKey_eq_ok h hk) with hcheck | he
    · exact absurd ((mem_keys_iff h hk).2 hcheck) hnot
    · exact he
  compiled_iff hc hf := by
    obtain ⟨f, hf⟩ := Option.isSome_iff_exists.1 hf
    obtain ⟨_, hcheck, _⟩ := eq_of_itemCheck? r i a hhas hc hf (compileKey_eq_ok h hk)
    rw [mem_keys_iff h hk, hcheck, ← not_iff_not, ← ItemTest.filterMap_testOf?_eq_nil_iff]
    split <;> simp_all
  entries hc hf := by
    obtain ⟨f, hf⟩ := Option.isSome_iff_exists.1 hf
    obtain ⟨hstuck, _, hreport⟩ := eq_of_itemCheck? r i a hhas hc hf (compileKey_eq_ok h hk)
    intro entry hentry
    rw [reportOf, hreport]
    exact ItemTest.accounted_of_not_stuck r hentry (hstuck entry hentry)
  blocks hb hmem := by
    subst hb
    -- blocks need no capability, so none is missing
    have hblock := compileKey_eq_ok h hk
    rw [compileKey_of_not_missing r i a hhas rfl] at hblock
    exact Check.accounted_of_compileBlocks r a hblock ((mem_keys_iff h hk).1 hmem)

/-- The rule of a JSON object compiles exactly when no key is faulty, and then every failure has
been recovered from. -/
theorem compile_ofFields (fields : Fields) :
    (∃ rule reported, compile r i (RuleAttributes.ofFields fields).1 = .ok (rule, reported) ∧
      ∀ k ∈ Key.checkOrder, (RuleAttributes.ofFields fields).1.has k →
        Recovered r i (RuleAttributes.ofFields fields).1 rule reported k) ↔
    ∀ k ∈ Key.checkOrder, ¬ Faulty r i (RuleAttributes.ofFields fields).1 k := by
  rw [← exists_compile_eq_ok_iff]
  constructor
  · rintro ⟨rule, reported, h, _⟩
    exact ⟨_, h⟩
  · rintro ⟨⟨rule, reported⟩, h⟩
    exact ⟨rule, reported, h, fun k hk hhas => recovered_of_compile r i _ h hk hhas⟩

/-- No registry and no integrations are needed to stop at a count that is infinite. -/
theorem compile_stops_at_infinity :
    compile ⟨[], [], []⟩ .absent (RuleAttributes.ofFields [("helditem",
      .obj [("empty", .bool false), ("count", .float (.infinity false))])]).1 =
        .error .infinite := rfl

end Rule
end RuleGate
