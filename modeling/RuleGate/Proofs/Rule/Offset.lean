import RuleGate.Proofs.Rule.Kinds
import RuleGate.Proofs.Rule.Matching

/-!
# An offset moves the block of the event

Only the check of blocks looks at the position of the block in question, and an offset does nothing
but move it. So the rule without its offset has the same checks but for that one, and comes to the
same on the event whose block is where the offset leads (`Rule.compile_displaced`). If the offset
has nowhere to start from, the check of blocks does not hold.
-/

namespace RuleGate

namespace Event

/-- The block that the player looks at; it takes a world to look around in. -/
def sight (e : Event) : Option BlockPos :=
  match e.world, e.player with
  | some _, some p => p.lookingAt
  | _, _ => none

def atBlock (e : Event) (p : BlockPos) : Event :=
  { e with blockPos := some p }

end Event

namespace Offset

variable (o : Offset) (e : Event)

theorem origin_eq : o.origin e = if o.look then e.sight <|> e.targetPos else e.targetPos := by
  obtain ⟨dx, dy, dz, look⟩ := o
  obtain ⟨world, pos, player, blockPos⟩ := e
  cases look with
  | false => rfl
  | true => cases world <;> cases player <;> rfl

theorem resolve_of_sight_eq_none (h : e.sight = none) (look : Bool) :
    resolve { o with look } e = resolve { o with look := false } e := by
  have horigin : origin { o with look } e = origin { o with look := false } e := by
    rw [origin_eq, origin_eq, h]
    cases look <;> rfl
  unfold resolve
  rw [horigin]

end Offset

namespace Check

def unmoved : Check → Check
  | block _ wanted => block none wanted
  | c => c

/-- A check of blocks has the given offset. -/
def MovedBy (o : Offset) : Check → Prop
  | block offset _ => offset = some o
  | _ => True

variable {i : Integrations} {o : Offset} {e : Event} {c : Check}

theorem blockHolds_atBlock {t : BlockPos} (h : o.origin e = some t)
    (wanted : List (List BlockTest)) :
    blockHolds none wanted (e.atBlock (t.offset o.dx o.dy o.dz)) =
      blockHolds (some o) wanted e := by
  have hplace : blockPlace (some o) e = some (t.offset o.dx o.dy o.dz) := by
    change (o.origin e).map _ = _
    rw [h]
    rfl
  unfold blockHolds
  rw [hplace]
  rfl

theorem holds_atBlock {t : BlockPos} (hc : c.MovedBy o) (h : o.origin e = some t)
    (draw : Number) :
    c.unmoved.holds i (e.atBlock (t.offset o.dx o.dy o.dz)) draw = c.holds i e draw := by
  cases c with
  | block offset wanted =>
    obtain rfl : offset = some o := hc
    exact blockHolds_atBlock h wanted
  -- no other check asks for the block in question
  | _ => rfl

theorem draws_unmoved (c : Check) : c.unmoved.draws = c.draws := by
  cases c <;> rfl

theorem holds_block_of_origin_eq_none (h : o.origin e = none) (wanted : List (List BlockTest))
    (draw : Number) : (block (some o) wanted).holds i e draw = .ok false := by
  have hplace : blockPlace (some o) e = none := by
    change (o.origin e).map _ = _
    rw [h]
    rfl
  change blockHolds (some o) wanted e = .ok false
  unfold blockHolds
  rw [hplace]
  cases e.world <;> rfl

theorem exists_eq_block (h : .block ∈ c.origins) : ∃ offset wanted, c = block offset wanted := by
  cases c with
  | block offset wanted => exact ⟨offset, wanted, rfl⟩
  | time bound | height bound | spawnDistance bound | light bound | localDifficulty bound =>
    cases bound <;> simp [origins] at h
  | _ => simp [origins] at h

theorem unmoved_eq_self {k : Key} (h : k ∈ c.origins) (hk : k ≠ .block) : c.unmoved = c := by
  cases c with
  | block offset wanted => exact absurd (List.mem_singleton.1 h) hk
  | _ => rfl

theorem movedBy_of_ne_block {k : Key} (h : k ∈ c.origins) (hk : k ≠ .block) : c.MovedBy o := by
  cases c with
  | block offset wanted => exact absurd (List.mem_singleton.1 h) hk
  | _ => exact trivial

end Check

def CompiledCheck.unmoved (c : CompiledCheck) : CompiledCheck :=
  { c with check := c.check.unmoved }

namespace Outcome

def unmoved (o : Outcome) : Outcome :=
  { o with check := o.check.map Check.unmoved }

theorem unmoved_eq_self {o : Outcome} (h : ∀ c, o.check = some c → c.unmoved = c) :
    o.unmoved = o := by
  obtain ⟨check, diagnostics⟩ := o
  cases check with
  | none => rfl
  | some c =>
    have hc : c.unmoved = c := h c rfl
    rw [unmoved, Option.map_some, hc]

end Outcome

namespace Check

variable {r : Registry} {o : Offset} {raw : Json}

theorem blocksAt_nil (ho : Offset.compile raw = .ok o) (raws wanted : List Json) :
    blocksAt r [] wanted = (blocksAt r (raw :: raws) wanted).map Outcome.unmoved := by
  have hoffset : offsetOf (raw :: raws) = .ok (some o) := by
    rw [offsetOf, ho]
    rfl
  unfold blocksAt
  rw [hoffset, offsetOf]
  cases blocksOf r wanted with
  | error f => rfl
  | ok out =>
    obtain ⟨tests, reported⟩ := out
    cases tests <;> rfl

theorem movedBy_of_blocksAt {raws wanted : List Json} {out : Outcome} {c : Check}
    (ho : Offset.compile raw = .ok o) (h : blocksAt r (raw :: raws) wanted = .ok out)
    (hc : out.check = some c) : c.MovedBy o := by
  rcases blocksAt_cases h with ⟨e, rfl⟩ | ⟨e, _, rfl⟩ | ⟨offset, tests, _, hoffset, _, rfl⟩
  · cases hc
  · cases hc
  · rw [offsetOf, ho] at hoffset
    obtain rfl := Except.ok.inj hoffset
    obtain rfl := Option.some.inj hc
    rfl

end Check

namespace Rule

variable (r : Registry) (i : Integrations) {a : RuleAttributes} {raw : Json} {o : Offset}

theorem exists_described_blockOffset (hraw : a.get? .blockOffset = some raw) :
    ∃ raws, a.described .blockOffset = raw :: raws := by
  obtain ⟨raws, hraws⟩ := List.head?_eq_some_iff.1 hraw
  exact ⟨raws, List.filterMap_some.trans hraws⟩

theorem compileKey_of_ne_block {k : Key} (hk : k ∈ Key.checkOrder) (hb : k ≠ .block) :
    compileKey r i (a.without .blockOffset) k = (compileKey r i a k).map Outcome.unmoved := by
  have hsame : compileKey r i (a.without .blockOffset) k = compileKey r i a k :=
    compileKey_congr r i _ (a.getList_without_of_ne (Key.mem_checkOrder.1 hk))
      fun h => absurd h hb
  rw [hsame]
  cases hout : compileKey r i a k with
  | error f => rfl
  | ok out =>
    refine congrArg Except.ok (Outcome.unmoved_eq_self fun c hc => ?_).symm
    have horigin := Check.mem_origins_of_compile (compile_of_check_eq_some r i a hout hc) hc
    exact Check.unmoved_eq_self horigin hb

theorem map_unmoved_compileKey {k : Key} (hk : k ∈ Key.checkOrder)
    (hraw : a.get? .blockOffset = some raw) (ho : Offset.compile raw = .ok o) :
    compileKey r i (a.without .blockOffset) k = (compileKey r i a k).map Outcome.unmoved := by
  by_cases hb : k = .block
  · subst hb
    obtain ⟨raws, hraws⟩ := exists_described_blockOffset hraw
    have hblock :
        RuleAttributes.described (a.without .blockOffset) .block = a.described .block := rfl
    rw [compileKey_block, compileKey_block, hblock, hraws]
    split
    · rfl
    · exact Check.blocksAt_nil ho raws (a.described .block)
  · exact compileKey_of_ne_block r i hk hb

theorem map_unmoved_compileKeys {ks : List Key} (hks : ∀ k ∈ ks, k ∈ Key.checkOrder)
    (hraw : a.get? .blockOffset = some raw) (ho : Offset.compile raw = .ok o) :
    compileKeys r i (a.without .blockOffset) ks =
      (compileKeys r i a ks).map fun out => (out.1.map CompiledCheck.unmoved, out.2) := by
  induction ks with
  | nil => rfl
  | cons k rest ih =>
    obtain ⟨hk, hrest⟩ := List.forall_mem_cons.1 hks
    rw [compileKeys, compileKeys, map_unmoved_compileKey r i hk hraw ho, ih hrest]
    cases compileKey r i a k with
    | error f => rfl
    | ok out =>
      cases compileKeys r i a rest with
      | error f => rfl
      | ok others =>
        obtain ⟨check, diagnostics⟩ := out
        cases check <;> rfl

variable {r i} {rule : Rule} {reported : List Diagnostic}

theorem movedBy_of_mem (h : compile r i a = .ok (rule, reported))
    (hraw : a.get? .blockOffset = some raw) (ho : Offset.compile raw = .ok o) :
    ∀ c ∈ rule, c.check.MovedBy o := by
  intro c hc
  obtain ⟨out, hout, hcheck⟩ := exists_compileKey_of_mem r i a h hc
  by_cases hb : c.key = .block
  · obtain ⟨raws, hraws⟩ := exists_described_blockOffset hraw
    rw [hb, compileKey_block, hraws] at hout
    split at hout
    · cases hout
      cases hcheck
    · exact Check.movedBy_of_blocksAt ho hout hcheck
  · have horigin := (has_and_mem_origins r i a h hc).2
    exact Check.movedBy_of_ne_block horigin hb

variable {e : Event}

/-- A rule without its offset comes to the same where the block of the event is moved instead. -/
theorem run_map_unmoved {t : BlockPos} (hmoved : ∀ c ∈ rule, c.check.MovedBy o)
    (ht : o.origin e = some t) (source : Nat → Number) (used : Nat) :
    run i (e.atBlock (t.offset o.dx o.dy o.dz)) source used (rule.map CompiledCheck.unmoved) =
      run i e source used rule := by
  induction rule generalizing used with
  | nil => rfl
  | cons c rest ih =>
    obtain ⟨hc, hrest⟩ := List.forall_mem_cons.1 hmoved
    have hholds : c.unmoved.holds i (e.atBlock (t.offset o.dx o.dy o.dz)) source used =
        c.holds i e source used := Check.holds_atBlock hc ht (source used)
    have hused : c.unmoved.usedAfter used = c.usedAfter used := by
      simp only [CompiledCheck.usedAfter, CompiledCheck.unmoved, Check.draws_unmoved]
    rw [List.map_cons, run, run, hholds, hused, ih hrest]
    rfl

/-- A rule, and what it is without its offset. -/
structure Displaced (i : Integrations) (o : Offset) (rule plain : Rule) : Prop where
  /-- Only the check of blocks is another. -/
  plain_eq : plain = rule.map CompiledCheck.unmoved
  run_eq : ∀ {e t}, o.origin e = some t → ∀ source used, run i e source used rule =
    run i (e.atBlock (t.offset o.dx o.dy o.dz)) source used plain
  holds_eq : ∀ {e}, o.origin e = none → ∀ c ∈ rule, c.key = .block → ∀ draw,
    c.check.holds i e draw = .ok false

theorem displaced_map_unmoved (h : compile r i a = .ok (rule, reported))
    (hraw : a.get? .blockOffset = some raw) (ho : Offset.compile raw = .ok o) :
    Displaced i o rule (rule.map CompiledCheck.unmoved) where
  plain_eq := rfl
  run_eq ht source used := (run_map_unmoved (movedBy_of_mem h hraw ho) ht source used).symm
  holds_eq hnone c hc hkey draw := by
    have horigin := (has_and_mem_origins r i a h hc).2
    have hmoved := movedBy_of_mem h hraw ho c hc
    rw [hkey] at horigin
    obtain ⟨offset, wanted, hcheck⟩ := Check.exists_eq_block horigin
    rw [hcheck] at hmoved ⊢
    obtain rfl : offset = some o := hmoved
    exact Check.holds_block_of_origin_eq_none hnone wanted draw

/-- A rule with an offset is the rule without it, put to the event whose block is where the offset
leads. The offset starts from what the player looks at, if it asks for that and there is such a
block, and else from the block of the event. -/
theorem compile_displaced (r : Registry) (i : Integrations)
    (hraw : a.get? .blockOffset = some raw) (ho : Offset.compile raw = .ok o) :
    compile r i (a.without .blockOffset) =
        (compile r i a).map (fun out => (out.1.map CompiledCheck.unmoved, out.2)) ∧
      (∀ rule reported, compile r i a = .ok (rule, reported) →
        ∃ plain, compile r i (a.without .blockOffset) = .ok (plain, reported) ∧
          Displaced i o rule plain) ∧
      (∀ e, o.origin e = if o.look then e.sight <|> e.targetPos else e.targetPos) ∧
      ∀ e : Event, e.sight = none →
        Offset.resolve { o with look := true } e = Offset.resolve { o with look := false } e := by
  have hcompile : compile r i (a.without .blockOffset) =
      (compile r i a).map fun out => (out.1.map CompiledCheck.unmoved, out.2) :=
    map_unmoved_compileKeys r i (fun _ hk => hk) hraw ho
  refine ⟨hcompile, fun rule reported h => ?_, o.origin_eq, fun e he => ?_⟩
  · refine ⟨_, ?_, displaced_map_unmoved h hraw ho⟩
    rw [hcompile, h]
    rfl
  · exact o.resolve_of_sight_eq_none e he true

def floorOffset : Json :=
  .obj [("offset", .obj [("y", .int (-1))]), ("look", .bool true)]

/-- Stone below the block that the player looks at, and the event itself high enough. -/
def floorAttributes : RuleAttributes :=
  .ofAdditions [⟨.blockOffset, floorOffset⟩, ⟨.block, .str "stone"⟩, ⟨.minHeight, (60 : Int)⟩]

def floorRule : Rule := [
    ⟨.minHeight, .height .atLeast 60⟩,
    ⟨.block, .block (some ⟨0, -1, 0, true⟩) [[.block "minecraft:stone"]]⟩]

def floorEvent : Event where
  world := some { blocks := [(⟨5, 69, 5⟩, ⟨"minecraft:stone", []⟩)] }
  pos := some ⟨0, 64, 0⟩
  player := some { lookingAt := some ⟨5, 70, 5⟩ }

theorem compile_displaced_floor :
    (floorAttributes.get? .blockOffset = some floorOffset ∧
      Offset.compile floorOffset = .ok ⟨0, -1, 0, true⟩) ∧
    ∃ plain, compile ⟨[], [("minecraft:stone", [])], []⟩ .absent
        (floorAttributes.without .blockOffset) = .ok (plain, []) ∧
      Displaced .absent ⟨0, -1, 0, true⟩ floorRule plain ∧
      run .absent (floorEvent.atBlock ⟨5, 69, 5⟩) (fun _ => .int 0) 0 plain = (⟨true, none⟩, 0) := by
  obtain ⟨plain, hplain, hdisplaced⟩ := (compile_displaced ⟨[], [("minecraft:stone", [])], []⟩
    .absent (a := floorAttributes) (o := ⟨0, -1, 0, true⟩) rfl rfl).2.1 floorRule [] rfl
  refine ⟨⟨rfl, rfl⟩, plain, hplain, hdisplaced, ?_⟩
  have hrun := hdisplaced.run_eq (e := floorEvent) (t := ⟨5, 70, 5⟩) rfl (fun _ => .int 0) 0
  exact hrun.symm

end Rule
end RuleGate
