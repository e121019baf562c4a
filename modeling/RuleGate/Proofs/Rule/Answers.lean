import RuleGate.Proofs.Descriptor.Answers
import RuleGate.Proofs.Rule.Matching
import RuleGate.Proofs.Snapshot

/-!
# Rules without an answer

Of all checks only those of items and of blocks look into stacks, and these have no answer exactly
when they stumble (`Check.holds_eq_error_iff`); then one of the stacks that they look at has an
unreadable tag (`Check.unreadable_of_stumbles`). A run fails exactly when such a check is reached
(`Rule.failed_isSome_iff`). The tags of a snapshot come from its payload, so a payload of which all
doubles are finite leaves no rule without an answer (`Rule.run_answers`), and an infinite number in
the tag of one held item is enough for a rule to have none (`Rule.run_fails_at_infinity`).
-/

namespace RuleGate

namespace Check

variable (i : Integrations) (e : Event)

def looksAt : Check → List ItemStack
  | block offset wanted =>
    match e.world, blockPlace offset e with
    | some w, some pos => wanted.flatten.flatMap (BlockTest.looksAt w pos)
    | _, _ => []
  | equipment slots _ =>
    match e.player with
    | some p => slots.map p.itemIn
    | none => []
  | bauble slot _ =>
    match e.player with
    | some p => (i.baubleSlots slot).map fun k => i.baubleStack p.name k
    | none => []
  | _ => []

/-- A check that comes upon a number without an integer. -/
def Stumbles : Check → Prop
  | block offset wanted => ∃ w pos, e.world = some w ∧ blockPlace offset e = some pos ∧
      Reaches (fun tests => BlockTest.allHold w pos tests = .ok false)
        (BlockTest.SomeStumbles w pos) wanted
  | equipment slots wanted => ItemTest.HeldStumble wanted (looksAt i e (equipment slots wanted))
  | bauble slot wanted => ItemTest.HeldStumble wanted (looksAt i e (bauble slot wanted))
  | _ => False

theorem blockHolds_eq_error_iff (offset : Option Offset) (wanted : List (List BlockTest)) :
    (∃ f, blockHolds offset wanted e = .error f) ↔ (block offset wanted).Stumbles i e := by
  unfold blockHolds
  rw [Stumbles]
  cases e.world with
  | none => simp
  | some w =>
    cases blockPlace offset e with
    | none => simp
    | some pos =>
      simp [isOneOfBlocks_eq, Except.anyM_eq_error_iff, BlockTest.allHold_eq_error_iff]

theorem holds_eq_error_iff (c : Check) (draw : Number) :
    (∃ f, c.holds i e draw = .error f) ↔ c.Stumbles i e := by
  cases c with
  | block offset wanted => exact blockHolds_eq_error_iff i e offset wanted
  | equipment slots wanted =>
    rw [holds, equipmentHolds, Stumbles, looksAt, ← ItemTest.anyM_anyHolds_eq_error_iff]
    cases e.player <;> simp [stacksHold]
  | bauble slot wanted =>
    rw [holds, baubleHolds, Stumbles, looksAt, ← ItemTest.anyM_anyHolds_eq_error_iff]
    cases e.player <;> simp [stacksHold]
  | _ => simp [holds, Stumbles]

variable {i e}

theorem unreadable_of_stumbles {c : Check} (h : c.Stumbles i e) :
    ∃ s ∈ c.looksAt i e, TagTest.Unreadable s.compound := by
  cases c with
  | block offset wanted =>
    obtain ⟨w, pos, hw, hpos, hreach⟩ := h
    obtain ⟨tests, htests, _, hreach⟩ := exists_of_reaches hreach
    obtain ⟨t, ht, hstumbles⟩ := exists_of_reaches hreach
    obtain ⟨s, hs, hunreadable⟩ := BlockTest.unreadable_of_stumbles w pos hstumbles
    refine ⟨s, ?_, hunreadable⟩
    simp only [looksAt, hw, hpos]
    exact List.mem_flatMap.2 ⟨t, List.mem_flatten.2 ⟨tests, htests, ht⟩, hs⟩
  | equipment slots wanted => exact ItemTest.unreadable_of_heldStumble h
  | bauble slot wanted => exact ItemTest.unreadable_of_heldStumble h
  | _ => exact h.elim

theorem tagWithin_of_mem_looksAt {v : Json} (h : Snapshot.TagsWithin v i e) {c : Check}
    {s : ItemStack} (hs : s ∈ c.looksAt i e) : s.TagWithin v := by
  cases c with
  | block offset wanted =>
    unfold looksAt at hs
    dsimp only at hs
    split at hs
    case h_1 w pos hw _ =>
      obtain ⟨t, _, hst⟩ := List.mem_flatMap.1 hs
      obtain ⟨entity, stored, hentity, hitems, hmem⟩ :=
        BlockTest.exists_items_of_mem_looksAt w pos hst
      exact h.stored w hw pos entity hentity stored hitems s hmem
    case h_2 => cases hs
  | equipment slots wanted =>
    unfold looksAt at hs
    dsimp only at hs
    split at hs
    case h_1 p hp =>
      obtain ⟨slot, _, rfl⟩ := List.mem_map.1 hs
      exact h.held p hp slot
    case h_2 => cases hs
  | bauble slot wanted =>
    unfold looksAt at hs
    dsimp only at hs
    split at hs
    case h_1 p hp =>
      obtain ⟨k, _, rfl⟩ := List.mem_map.1 hs
      exact h.worn p.name k
    case h_2 => cases hs
  | _ => cases hs

end Check

namespace Rule

variable (i : Integrations) (e : Event)

/-- A check stumbles, and all checks before it hold with the numbers drawn for them. -/
def Fails (source : Nat → Number) (used : Nat) : Rule → Prop
  | [] => False
  | c :: rest => c.check.Stumbles i e ∨
      c.holds i e source used = .ok true ∧ Fails source (c.usedAfter used) rest

theorem failed_isSome_iff (rule : Rule) (source : Nat → Number) (used : Nat) :
    (run i e source used rule).1.failed.isSome ↔ Fails i e source used rule := by
  induction rule generalizing used with
  | nil => simp [run, Fails]
  | cons c rest ih =>
    rw [run, Fails, ← ih, ← Check.holds_eq_error_iff i e c.check (source used)]
    change _ ↔ (∃ f, c.holds i e source used = .error f) ∨ _
    rcases c.holds i e source used with f | _ | _ <;> simp

variable {i e}

theorem not_fails_of_readable {rule : Rule}
    (h : ∀ c ∈ rule, ∀ s ∈ c.check.looksAt i e, ¬ TagTest.Unreadable s.compound)
    (source : Nat → Number) (used : Nat) : ¬ Fails i e source used rule := by
  induction rule generalizing used with
  | nil => exact id
  | cons c rest ih =>
    obtain ⟨hc, hrest⟩ := List.forall_mem_cons.1 h
    rintro (hstumbles | ⟨_, hfails⟩)
    · obtain ⟨s, hs, hunreadable⟩ := Check.unreadable_of_stumbles hstumbles
      exact hc s hs hunreadable
    · exact ih hrest _ hfails

theorem not_unreadable_of_finite {payload : Json} (hfinite : payload.Finite) {s : ItemStack}
    (h : s.TagWithin payload) : ¬ TagTest.Unreadable s.compound := by
  cases htag : s.tag with
  | none =>
    rw [ItemStack.compound, htag]
    exact TagTest.not_unreadable_nil
  | some tag =>
    rw [ItemStack.compound, htag]
    exact TagTest.not_unreadable_of_finite fun d hwithin => hfinite d (hwithin.trans (h tag htag))

/-- Which questions have an answer: of items, of the checks of a rule and of its runs; and if all
doubles of a payload are finite, those of every rule on its event. -/
theorem run_answers (rule : Rule) :
    (∀ s : ItemStack,
      (∀ t : ItemTest, ∃ b, t.holds s = .ok b) ↔ ¬ TagTest.Unreadable s.compound) ∧
    (∀ compound tag, (∀ v, Table.get? compound tag = some v → v.number? = none) →
      TagTest.integerAt compound tag = .ok 0) ∧
    (∀ i e, ∀ c ∈ rule, ∀ draw,
      (∃ b, c.check.holds i e draw = .ok b) ↔ ¬ c.check.Stumbles i e) ∧
    (∀ i e, ∀ c ∈ rule, c.check.Stumbles i e →
      ∃ s ∈ c.check.looksAt i e, TagTest.Unreadable s.compound) ∧
    (∀ i e source used,
      (run i e source used rule).1.failed = none ↔ ¬ Fails i e source used rule) ∧
    ∀ default payload s e, payload.Finite → Snapshot.ofJson default payload = .valid s →
      s.event = some e → ∀ source used,
        (run (.tables s.integrations) e source used rule).1.failed = none := by
  have hfailed (i : Integrations) (e : Event) (source : Nat → Number) (used : Nat) :
      (run i e source used rule).1.failed = none ↔ ¬ Fails i e source used rule := by
    rw [← failed_isSome_iff, Option.not_isSome_iff_eq_none]
  refine ⟨fun s => ItemTest.total_iff, fun _ _ => TagTest.integerAt_of_not_number, ?_, ?_,
    hfailed, ?_⟩
  · intro i e c _ draw
    rw [← Check.holds_eq_error_iff i e c.check draw, Except.exists_eq_error_iff, not_not]
  · intro i e c _
    exact Check.unreadable_of_stumbles
  · intro default payload s e hfinite hs he source used
    have htags := Snapshot.tagsWithin_of_ofJson hs he
    rw [hfailed]
    apply not_fails_of_readable
    intro c _ st hst
    exact not_unreadable_of_finite hfinite (Check.tagWithin_of_mem_looksAt htags hst)

/-- An event at which the player holds a stick with an infinite number in its tag. -/
def infinitePayload : Json :=
  .obj [("event", .obj [("pos", .arr [.int 0, .int 0, .int 0])]),
    ("player", .obj [("equipment", .obj [("mainhand", .obj [("item", .str "stick"),
      ("tag", .obj [("x", .float (.infinity false))])])])])]

/-- The test asks for zero, which is what counts where there is no number. -/
theorem run_fails_at_infinity :
    ∃ s event rule, Snapshot.ofJson [] infinitePayload = .valid s ∧ s.event = some event ∧
      compile s.registry (.tables s.integrations) (RuleAttributes.ofFields [("helditem",
        .obj [("empty", .bool false),
          ("nbt", .arr [.obj [("tag", .str "x"), ("value", .int 0)]])])]).1 = .ok (rule, []) ∧
      rule.keys = [.heldItem] ∧
      ∀ source used, (run (.tables s.integrations) event source used rule).1 =
        ⟨false, some .heldItem⟩ :=
  ⟨_, _, _, rfl, rfl, rfl, rfl, fun _ _ => rfl⟩

end Rule
end RuleGate
