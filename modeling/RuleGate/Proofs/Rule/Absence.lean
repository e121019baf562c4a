import RuleGate.Proofs.Rule.Isolation
import RuleGate.Proofs.Rule.Kinds

/-!
# Events without facts

An event that has no world, no positions and no player satisfies next to no check. Which ones is
known from the attributes (`RuleAttributes.HoldsNowhere`): a chance that comes up, and a wish to be
outside of a city, a street, a sphere or a building, since what is nowhere is in none of them. So
the rules that such an event matches are those with no other keys (`Rule.isMatch_nowhere_iff`).
-/

namespace RuleGate

/-- Whether a key has a check that holds without any fact about the event. -/
def RuleAttributes.HoldsNowhere (a : RuleAttributes) (draw : Number) : Key → Prop
  | .random => ∃ chance, a.get? .random = some chance ∧ draw.lt (.float chance)
  | .inCity => a.get? .inCity = some false
  | .inStreet => a.get? .inStreet = some false
  | .inSphere => a.get? .inSphere = some false
  | .inBuilding => a.get? .inBuilding = some false
  | _ => False

/-- Whether the check of a key needs some fact, whatever its values. -/
def Key.needsFacts : Key → Bool
  | random | inCity | inStreet | inSphere | inBuilding => false
  | _ => true

theorem RuleAttributes.not_holdsNowhere (a : RuleAttributes) {k : Key} (hk : k.needsFacts)
    (draw : Number) : ¬ a.HoldsNowhere draw k := by
  cases k <;> first | exact id | cases hk

namespace Check

/-- The answer where no fact is known. -/
def holdsNowhere (draw : Number) : Check → Bool
  | random chance => draw.lt (.float chance)
  | cityPlace _ expected => !expected
  | _ => false

theorem holds_nowhere (i : Integrations) (draw : Number) (c : Check) :
    c.holds i {} draw = .ok (c.holdsNowhere draw) := by
  cases c with
  | cityPlace place expected => cases i <;> cases expected <;> rfl
  | _ => rfl

def needsFacts : Check → Bool
  | random _ | cityPlace _ _ => false
  | _ => true

theorem holdsNowhere_of_needsFacts {c : Check} (h : c.needsFacts) (draw : Number) :
    c.holdsNowhere draw = false := by
  cases c <;> first | rfl | cases h

variable {r : Registry} {a : RuleAttributes} {k : Key} {o : Outcome} {c : Check}

theorem needsFacts_of_compile (h : compile r a k = .ok o) (hc : o.check = some c)
    (hk : k.needsFacts) : c.needsFacts := by
  have horigin : k ∈ c.origins := mem_origins_of_compile h hc
  cases c with
  | random chance =>
    obtain rfl := List.mem_singleton.1 horigin
    cases hk
  | cityPlace place expected =>
    simp only [origins, List.mem_cons, List.not_mem_nil, or_false] at horigin
    rcases horigin with rfl | rfl | rfl | rfl <;> cases hk
  | _ => rfl

theorem holdsNowhere_of_compile (h : compile r a k = .ok o) (hc : o.check = some c)
    (draw : Number) : c.holdsNowhere draw ↔ a.HoldsNowhere draw k := by
  by_cases hk : k.needsFacts
  · rw [holdsNowhere_of_needsFacts (needsFacts_of_compile h hc hk)]
    exact iff_of_false Bool.false_ne_true (RuleAttributes.not_holdsNowhere a hk draw)
  · cases k
    case random =>
      obtain rfl := Except.ok.inj h
      obtain ⟨chance, hchance, hv⟩ := check_ofFirst_eq_some_iff.1 hc
      obtain rfl := Except.ok.inj hv
      constructor
      · intro hlt
        exact ⟨chance, hchance, hlt⟩
      · rintro ⟨first, hfirst, hlt⟩
        obtain rfl := Option.some.inj (hchance.symm.trans hfirst)
        exact hlt
    case inCity | inStreet | inSphere | inBuilding =>
      obtain rfl := Except.ok.inj h
      obtain ⟨expected, hexpected, hv⟩ := check_ofFirst_eq_some_iff.1 hc
      obtain rfl := Except.ok.inj hv
      exact (Bool.not_eq_true' expected).to_iff.trans
        ⟨fun hfalse => hexpected.trans (congrArg some hfalse),
          fun hfirst => Option.some.inj (hexpected.symm.trans hfirst)⟩
    all_goals exact absurd rfl hk

end Check

namespace Rule

variable (r : Registry) (i : Integrations) (a : RuleAttributes)

theorem isMatch_checkOf_nowhere {k : Key} (hkey : compileKey r i a k = .ok (outcome r i a k))
    (draw : Number) : (checkOf r i a k).isMatch i {} draw ↔
      ((outcome r i a k).check.isSome → a.HoldsNowhere draw k) := by
  rw [isMatch_eq_all, checkOf]
  cases hcheck : (outcome r i a k).check with
  | none => simp
  | some c =>
    have hholds := Check.holdsNowhere_of_compile (compile_of_check_eq_some r i a hkey hcheck) hcheck
    simp [CompiledCheck.passes, Check.holds_nowhere, hholds]

/-- A rule matches an event without facts exactly when all its keys hold without any. -/
theorem isMatch_nowhere_iff {rule : Rule} {reported : List Diagnostic}
    (h : compile r i a = .ok (rule, reported)) (draw : Number) :
    rule.isMatch i {} draw ↔ ∀ k ∈ rule.keys, a.HoldsNowhere draw k := by
  obtain ⟨hkeys, hrule, _⟩ := (compile_eq_ok_iff r i a).1 h
  have hmem (k : Key) : k ∈ rule.keys ↔ k ∈ Key.checkOrder ∧ (outcome r i a k).check.isSome := by
    rw [hrule, keys_flatMap_checkOf, List.mem_filter]
  rw [hrule, isMatch_flatMap, List.all_eq_true, ← hrule]
  constructor
  · intro hall k hk
    obtain ⟨horder, hcheck⟩ := (hmem k).1 hk
    exact (isMatch_checkOf_nowhere r i a (hkeys k horder) draw).1 (hall k horder) hcheck
  · intro hall k horder
    refine (isMatch_checkOf_nowhere r i a (hkeys k horder) draw).2 fun hcheck => ?_
    exact hall k ((hmem k).2 ⟨horder, hcheck⟩)

def outsideAttributes : RuleAttributes :=
  .ofAdditions [⟨.inCity, false⟩]

def citiesOnly : Integrations :=
  .tables { capabilities := [.lostCities] }

theorem isMatch_nowhere_outside :
    compile ⟨[], [], []⟩ citiesOnly outsideAttributes =
        .ok ([⟨.inCity, .cityPlace .city false⟩], []) ∧
      (isMatch citiesOnly {} (.int 0) [⟨.inCity, .cityPlace .city false⟩] ↔
        ∀ k ∈ keys [⟨.inCity, .cityPlace .city false⟩],
          outsideAttributes.HoldsNowhere (.int 0) k) :=
  have h : compile ⟨[], [], []⟩ citiesOnly outsideAttributes =
      .ok ([⟨.inCity, .cityPlace .city false⟩], []) := rfl
  ⟨h, isMatch_nowhere_iff _ _ _ h _⟩

/-- The wish is a check, no number is drawn for it, and the event without facts passes it. -/
theorem isMatch_of_no_facts :
    ∃ rule, compile ⟨[], [], []⟩ citiesOnly (RuleAttributes.ofFields [("incity", .bool false)]).1 =
        .ok (rule, []) ∧
      rule.keys = [.inCity] ∧ ∀ draw, rule.isMatch citiesOnly {} draw :=
  ⟨_, rfl, rfl, fun _ => rfl⟩

end Rule
end RuleGate
