import RuleGate.Proofs.Rule.Isolation
import RuleGate.Proofs.Rule.Kinds

/-!
# Keys left out without a report

A key that is there has its check in the rule or something to say in the report, unless it asks for
nothing: it describes items, and every list of them that it gives is empty (`compile_reports`). The
rule in `compile_empty_list` has such a key.
-/

namespace RuleGate.Rule

variable (r : Registry) (i : Integrations) (a : RuleAttributes)

/-- A key that describes items by empty lists alone. -/
structure AsksNothing (k : Key) : Prop where
  itemKey : k.itemCheck?.isSome
  available : missing? i k = none
  all_empty : ∀ v ∈ a.described k, Descriptor.decode v = .ok (.arr [])

theorem entries_eq_nil_iff {k : Key} :
    a.entries k = [] ↔ ∀ v ∈ a.described k, Descriptor.decode v = .ok (.arr []) := by
  rw [RuleAttributes.entries, List.flatMap_eq_nil_iff]
  simp only [ItemTest.entriesOf_eq_nil_iff]

theorem silent_iff {k : Key} (hk : k ∈ Key.checkOrder) (hhas : a.has k)
    (h : compileKey r i a k = .ok (outcome r i a k)) :
    (outcome r i a k).check = none ∧ (outcome r i a k).diagnostics = [] ↔ AsksNothing i a k := by
  by_cases hkind : k.itemCheck? = none ∨ missing? i k ≠ none
  · refine iff_of_false ?_ ?_
    · rintro ⟨hcheck, hreport⟩
      rcases explained_of_compileKey r i a hhas hk hkind h with hsome | ⟨e, he⟩
      · simp [hcheck] at hsome
      · simp [hreport] at he
    · rintro ⟨hitem, havailable, _⟩
      rcases hkind with hnone | hmissing
      · simp [hnone] at hitem
      · exact hmissing havailable
  · simp only [not_or, not_not] at hkind
    obtain ⟨hitem, hc⟩ := hkind
    obtain ⟨f, hf⟩ := Option.ne_none_iff_exists'.1 hitem
    obtain ⟨hstuck, hcheck, hreport⟩ := eq_of_itemCheck? r i a hhas hc hf h
    have hnone : (outcome r i a k).check = none ↔
        (a.entries k).filterMap (ItemTest.testOf? r) = [] := by
      rw [hcheck]
      split <;> simp_all
    rw [hnone, hreport, ItemTest.nothing_of_entries_iff r hstuck, entries_eq_nil_iff]
    exact ⟨fun hall => ⟨by simp [hf], hc, hall⟩, fun hasks => hasks.all_empty⟩

/-- A key that is there is compiled, or has its own part in the report, or asks for nothing. -/
theorem compile_reports {rule : Rule} {reported : List Diagnostic}
    (h : compile r i a = .ok (rule, reported)) {k : Key} (hk : k ∈ Key.checkOrder)
    (hhas : a.has k) :
    ∃ alone own, compile r i (a.only k) = .ok (alone, own) ∧ own <:+: reported ∧
      (k ∉ rule.keys ∧ own = [] ↔ AsksNothing i a k) := by
  have hkey := compileKey_eq_ok h hk
  refine ⟨_, _, compile_only r i a hk hkey, reportOf_infix h hk, ?_⟩
  rw [mem_keys_iff h hk, Bool.not_eq_true, Option.isSome_eq_false_iff, Option.isNone_iff_eq_none]
  exact silent_iff r i a hk hhas hkey

/-- Of two keys that are not compiled, one is reported and one asks for nothing. -/
def silentAttributes : RuleAttributes :=
  .ofAdditions [⟨.weather, ("snow" : Text)⟩, ⟨.heldItem, .arr []⟩, ⟨.heldItem, .arr []⟩]

theorem compile_reports_silent :
    (compile ⟨[], [], []⟩ .absent silentAttributes = .ok ([], [.omitted (.unknownWeather "snow")]) ∧
      .heldItem ∈ Key.checkOrder ∧ silentAttributes.has .heldItem) ∧
    ∃ alone own, compile ⟨[], [], []⟩ .absent (silentAttributes.only .heldItem) = .ok (alone, own) ∧
      own <:+: [.omitted (.unknownWeather "snow")] ∧
      (.heldItem ∉ keys [] ∧ own = [] ↔ AsksNothing .absent silentAttributes .heldItem) :=
  ⟨⟨rfl, by decide, rfl⟩, compile_reports _ _ _ rfl (by decide) rfl⟩

/-- A list of one empty list of items leaves the rule empty and nothing to report. -/
theorem compile_empty_list :
    .heldItem ∈ Key.checkOrder ∧
      (RuleAttributes.ofFields [("helditem", .arr [.arr []])]).1.has .heldItem ∧
      compile ⟨[], [], []⟩ .absent (RuleAttributes.ofFields [("helditem", .arr [.arr []])]).1 =
        .ok ([], []) :=
  ⟨by decide, rfl, rfl⟩

end RuleGate.Rule
