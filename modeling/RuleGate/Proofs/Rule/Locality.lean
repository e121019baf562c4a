import Mathlib.Data.Int.ModEq
import Mathlib.Data.Option.Basic
import RuleGate.Proofs.Rule.Matching
import RuleGate.Proofs.World.Blocks

/-!
# What a rule sees of a world

A rule looks at what belongs to no place, at what is where the event is, and at the block in
question; and at that block only if its chunk is loaded. `World.SameFor` is agreement of two worlds
on all of this. Each check gives the same answer in worlds that agree (`Check.holds_inWorld`), so
every run comes to the same verdict and uses up as many numbers, whatever else there is in one world
or the other (`Rule.run_inWorld`).
-/

namespace RuleGate

namespace BlockEntity

/-- Entities that hold the same and expose it to the same sides, in whatever order these are
listed. -/
structure Alike (b b' : BlockEntity) : Prop where
  items : b.items = b'.items
  energy : b.energy = b'.energy
  exposes : ∀ side, b.exposes side = b'.exposes side

theorem Alike.refl (b : BlockEntity) : Alike b b := ⟨rfl, rfl, fun _ => rfl⟩

variable {b b' : BlockEntity}

theorem Alike.energyStored (h : Alike b b') (side : Option Direction) :
    b.energyStored side = b'.energyStored side := by
  simp only [BlockEntity.energyStored, h.exposes, h.energy]

theorem Alike.itemSlots (h : Alike b b') (side : Option Direction) :
    b.itemSlots side = b'.itemSlots side := by
  simp only [BlockEntity.itemSlots, h.exposes, h.items]

theorem bind_eq_of_alike {o o' : Option BlockEntity} (h : Option.Rel Alike o o') {α : Type}
    {f : BlockEntity → Option α} (hf : ∀ b b', Alike b b' → f b = f b') : o.bind f = o'.bind f := by
  cases h with
  | none => rfl
  | some hb => exact hf _ _ hb

end BlockEntity

def Event.inWorld (e : Event) (w : World) : Event :=
  { e with world := some w }

namespace World

variable (w w' : World) (p : BlockPos)

/-- Agreement on what belongs to no place. Of the time only the time of day counts. -/
structure Alike : Prop where
  dimension : w.dimension = w'.dimension
  raining : w.raining = w'.raining
  thundering : w.thundering = w'.thundering
  difficulty : w.difficulty = w'.difficulty
  spawn : w.spawn = w'.spawn
  time : Option.Rel (· ≡ · [ZMOD Check.dayLength]) w.dayTime w'.dayTime

/-- Agreement on what a place has besides its block. -/
structure AlikeAt : Prop where
  biome : w.biomeAt p = w'.biomeAt p
  light : w.lightAt p = w'.lightAt p
  localDifficulty : w.localDifficultyAt p = w'.localDifficultyAt p
  sky : w.seesSky p = w'.seesSky p
  structures : ∀ name, w.inStructure p name = w'.inStructure p name

/-- Agreement on whether the chunk of a place is loaded and, if it is, on the block there. -/
structure SameBlockAt : Prop where
  loaded : w.isLoaded p.chunk = w'.isLoaded p.chunk
  state : w.isLoaded p.chunk → w.blockAt p = w'.blockAt p
  entity : w.isLoaded p.chunk → Option.Rel BlockEntity.Alike (w.entityAt p) (w'.entityAt p)

end World

/-- The place at which a check looks for its block. -/
def Check.blockPlace? (e : Event) : Check → Option BlockPos
  | .block offset _ => blockPlace offset e
  | _ => none

/-- Agreement on all that a rule looks at in the world of an event. -/
structure World.SameFor (e : Event) (rule : Rule) (w w' : World) : Prop where
  everywhere : Alike w w'
  here : ∀ p, e.pos = some p → AlikeAt w w' p
  block : ∀ c ∈ rule, ∀ p, c.check.blockPlace? (e.inWorld w) = some p → SameBlockAt w w' p

variable {w w' : World} {p : BlockPos}

namespace BlockTest

theorem holds_sameBlockAt (h : World.SameBlockAt w w' p) (hp : w.isLoaded p.chunk)
    (t : BlockTest) : t.holds w p = t.holds w' p := by
  have hstate := h.state hp
  have hentity := h.entity hp
  cases t with
  | block name => simp only [holds, hstate]
  | state s => simp only [holds, hstate]
  | mod name => simp only [holds, hstate]
  | energy e side =>
    have henergy := BlockEntity.bind_eq_of_alike hentity fun _ _ hb => hb.energyStored side
    simp only [holds, henergy]
  | contents items side =>
    have hslots := BlockEntity.bind_eq_of_alike hentity fun _ _ hb => hb.itemSlots side
    simp only [holds, hslots]

theorem allHold_sameBlockAt (h : World.SameBlockAt w w' p) (tests : List BlockTest) :
    allHold w p tests = allHold w' p tests := by
  unfold allHold
  rw [← h.loaded]
  by_cases hp : w.isLoaded p.chunk
  · have htests : holds w p = holds w' p := funext (holds_sameBlockAt h hp)
    rw [htests]
  · rw [if_neg hp, if_neg hp]

end BlockTest

namespace Check

variable {e : Event}

/-- Where the block is depends on the player and not on the world, once there is one. -/
theorem blockPlace_inWorld (w w' : World) (offset : Option Offset) :
    blockPlace offset (e.inWorld w') = blockPlace offset (e.inWorld w) := by
  cases offset with
  | none => rfl
  | some o =>
    obtain ⟨dx, dy, dz, look⟩ := o
    obtain ⟨world, pos, player, blockPos⟩ := e
    cases look <;> cases player <;> rfl

theorem withPlace_inWorld {test test' : World → BlockPos → Bool}
    (h : ∀ p, e.pos = some p → test w p = test' w' p) :
    withPlace (e.inWorld w) test = withPlace (e.inWorld w') test' := by
  obtain ⟨world, pos, player, blockPos⟩ := e
  cases pos with
  | none => rfl
  | some p => exact h p rfl

theorem timeHolds_alike (h : World.Alike w w') (bound : Bound) (limit : Int) :
    timeHolds bound limit w = timeHolds bound limit w' := by
  have htime := h.time
  unfold timeHolds
  generalize w.dayTime = t at htime
  generalize w'.dayTime = t' at htime
  cases htime with
  | none => rfl
  | some hmod => simp only [hmod.eq]

theorem blockHolds_inWorld_eq (offset : Option Offset) (wanted : List (List BlockTest)) :
    blockHolds offset wanted (e.inWorld w) =
      match blockPlace offset (e.inWorld w) with
      | some pos => isOneOfBlocks w pos wanted
      | none => .ok false := by
  unfold blockHolds
  cases blockPlace offset (e.inWorld w) <;> rfl

theorem blockHolds_inWorld {offset : Option Offset} {wanted : List (List BlockTest)}
    (h : ∀ p, blockPlace offset (e.inWorld w) = some p → World.SameBlockAt w w' p) :
    blockHolds offset wanted (e.inWorld w) = blockHolds offset wanted (e.inWorld w') := by
  rw [blockHolds_inWorld_eq, blockHolds_inWorld_eq, blockPlace_inWorld w w']
  cases hp : blockPlace offset (e.inWorld w) with
  | none => rfl
  | some p =>
    have htests : BlockTest.allHold w p = BlockTest.allHold w' p :=
      funext (BlockTest.allHold_sameBlockAt (h p hp))
    simp only [isOneOfBlocks, htests]

theorem holds_inWorld (i : Integrations) {c : Check} (heverywhere : World.Alike w w')
    (hhere : ∀ p, e.pos = some p → World.AlikeAt w w' p)
    (hblock : ∀ p, c.blockPlace? (e.inWorld w) = some p → World.SameBlockAt w w' p)
    (draw : Number) : c.holds i (e.inWorld w) draw = c.holds i (e.inWorld w') draw := by
  cases c with
  | dimension allowed => simp only [holds, withWorld, Event.inWorld, heverywhere.dimension]
  | dimensionMod allowed => simp only [holds, withWorld, Event.inWorld, heverywhere.dimension]
  | season season expected => simp only [holds, withWorld, Event.inWorld, heverywhere.dimension]
  | time bound limit => exact congrArg Except.ok (timeHolds_alike heverywhere bound limit)
  | rain => exact congrArg Except.ok heverywhere.raining
  | thunder => exact congrArg Except.ok heverywhere.thundering
  | difficulty d => simp only [holds, withWorld, Event.inWorld, heverywhere.difficulty]
  | spawnDistance bound squared =>
    exact congrArg Except.ok (withPlace_inWorld fun p hp => by rw [heverywhere.spawn])
  | category allowed =>
    exact congrArg Except.ok (withPlace_inWorld fun p hp => by rw [(hhere p hp).biome])
  | biome allowed =>
    exact congrArg Except.ok (withPlace_inWorld fun p hp => by
      simp only [biomeHolds, (hhere p hp).biome])
  | biomeId allowed =>
    exact congrArg Except.ok (withPlace_inWorld fun p hp => by rw [(hhere p hp).biome])
  | light bound limit =>
    exact congrArg Except.ok (withPlace_inWorld fun p hp => by rw [(hhere p hp).light])
  | localDifficulty bound limit =>
    exact congrArg Except.ok (withPlace_inWorld fun p hp => by rw [(hhere p hp).localDifficulty])
  | seesSky expected =>
    exact congrArg Except.ok (withPlace_inWorld fun p hp => by rw [(hhere p hp).sky])
  | inStructure name =>
    exact congrArg Except.ok (withPlace_inWorld fun p hp => (hhere p hp).structures name)
  | block offset wanted => exact blockHolds_inWorld hblock
  -- the others ask about the player, the position or the integrations
  | _ => rfl

end Check

namespace World

variable (w : World) (q : BlockPos) (state : BlockState) (entity : Option BlockEntity)

/-- The world with another block at one place, and with another entity or none. -/
def refill : World :=
  (w.setBlock q state).setEntity q entity

theorem exists_refill_eq :
    ∃ blocks entities, w.refill q state entity = { w with blocks, entities } ∧
      ∀ p, p ≠ q → blocks.get? p = w.blocks.get? p ∧ entities.get? p = w.entities.get? p := by
  obtain ⟨blocks, hset, hblocks⟩ := exists_setBlock_eq w q state
  obtain ⟨entities, hentity, hentities⟩ := exists_setEntity_eq { w with blocks } q entity
  refine ⟨blocks, entities, ?_, fun p hp => ⟨hblocks p hp, hentities p hp⟩⟩
  rw [refill, hset, hentity]

/-- Refilling a place that a rule does not see leaves all that it looks at as it was. -/
theorem sameFor_refill {e : Event} {rule : Rule}
    (h : ∀ c ∈ rule, c.check.blockPlace? (e.inWorld w) = some q → w.isLoaded q.chunk = false) :
    SameFor e rule w (w.refill q state entity) := by
  obtain ⟨blocks, entities, heq, hother⟩ := exists_refill_eq w q state entity
  rw [heq]
  refine ⟨⟨rfl, rfl, rfl, rfl, rfl, ?_⟩, fun p _ => ⟨rfl, rfl, rfl, rfl, fun _ => rfl⟩, ?_⟩
  · cases w.dayTime with
    | none => exact .none
    | some t => exact .some rfl
  · intro c hc p hp
    have hne (hloaded : w.isLoaded p.chunk) : p ≠ q := by
      rintro rfl
      rw [h c hc hp] at hloaded
      cases hloaded
    refine ⟨rfl, fun hloaded => ?_, fun hloaded => ?_⟩
    · unfold blockAt
      rw [(hother p (hne hloaded)).1]
    · unfold entityAt
      rw [(hother p (hne hloaded)).2]
      cases w.entities.get? p with
      | none => exact .none
      | some b => exact .some (.refl b)

end World

namespace Rule

variable (i : Integrations) (e : Event) (rule : Rule)

theorem run_sameFor (h : World.SameFor e rule w w') (source : Nat → Number) (used : Nat) :
    run i (e.inWorld w) source used rule = run i (e.inWorld w') source used rule :=
  run_congr _ _ (fun c hc => Check.holds_inWorld i h.everywhere h.here (h.block c hc)) source used

/-- In worlds that agree on what a rule looks at, every run of it comes to the same. What stands
anywhere but at the block in question, or in a chunk that is not loaded, is never seen. -/
theorem run_inWorld (w : World) :
    (∀ w', World.SameFor e rule w w' → ∀ source used,
      run i (e.inWorld w) source used rule = run i (e.inWorld w') source used rule) ∧
    ∀ q, (∀ c ∈ rule, c.check.blockPlace? (e.inWorld w) = some q → w.isLoaded q.chunk = false) →
      ∀ state entity source used,
        run i (e.inWorld w) source used rule =
          run i (e.inWorld (w.refill q state entity)) source used rule := by
  refine ⟨fun w' h source used => run_sameFor i e rule h source used, ?_⟩
  intro q hq state entity source used
  exact run_sameFor i e rule (w.sameFor_refill q state entity hq) source used

/-- At the end of the day, with light, and stone beside the block that the player looks at. -/
def sightRule : Rule := [
    ⟨.minTime, .time .atLeast 23999⟩,
    ⟨.minLight, .light .atLeast 15⟩,
    ⟨.block, .block (some ⟨1, 0, 0, true⟩) [[.block "minecraft:stone"]]⟩]

def sightEvent : Event where
  pos := some ⟨3, 64, -2⟩
  player := some { lookingAt := some ⟨-17, 70, -1⟩ }

def sightWorld : World where
  dayTime := some (-1)
  blocks := [(⟨-16, 70, -1⟩, ⟨"minecraft:stone", []⟩)]
  light := [(⟨3, 65, -2⟩, 0)]

/-- Another day, with other things at other places. -/
def otherWorld : World where
  dayTime := some 24000023999
  blocks := [(⟨-17, 70, -1⟩, ⟨"minecraft:stone", []⟩), (⟨-16, 70, -1⟩, ⟨"minecraft:stone", []⟩)]
  entities := [(⟨3, 64, -2⟩, { energy := some 7 })]
  covered := [⟨0, 0, 0⟩]
  unloaded := [⟨0, 0⟩]

/-- The chunk of the block is not loaded. -/
def farWorld : World where
  unloaded := [⟨-1, -1⟩]

theorem blockPlace?_sight (w : World) : ∀ c ∈ sightRule, ∀ p,
    c.check.blockPlace? (sightEvent.inWorld w) = some p → p = ⟨-16, 70, -1⟩ := by
  simp only [sightRule, List.forall_mem_cons]
  refine ⟨?_, ?_, ?_, fun c hc => absurd hc List.not_mem_nil⟩
  · intro p hp
    cases hp
  · intro p hp
    cases hp
  · intro p hp
    exact (Option.some.inj hp).symm

theorem sameFor_sight : World.SameFor sightEvent sightRule sightWorld otherWorld := by
  refine ⟨⟨rfl, rfl, rfl, rfl, rfl, .some rfl⟩, ?_, ?_⟩
  · intro p hp
    obtain rfl := Option.some.inj hp
    exact ⟨rfl, rfl, rfl, rfl, fun _ => rfl⟩
  · intro c hc p hp
    obtain rfl := blockPlace?_sight _ c hc p hp
    exact ⟨rfl, fun _ => rfl, fun _ => .none⟩

/-- The first two worlds agree and the rule matches in both. In the third the block cannot be seen,
whether it is there or not. -/
theorem run_inWorld_sight :
    (World.SameFor sightEvent sightRule sightWorld otherWorld ∧
      farWorld.isLoaded (BlockPos.chunk ⟨-16, 70, -1⟩) = false) ∧
    run .absent (sightEvent.inWorld sightWorld) (fun _ => .int 0) 0 sightRule =
      run .absent (sightEvent.inWorld otherWorld) (fun _ => .int 0) 0 sightRule ∧
    run .absent (sightEvent.inWorld sightWorld) (fun _ => .int 0) 0 sightRule =
      (⟨true, none⟩, 0) ∧
    run .absent (sightEvent.inWorld farWorld) (fun _ => .int 0) 0 sightRule =
      run .absent (sightEvent.inWorld (farWorld.refill ⟨-16, 70, -1⟩ ⟨"minecraft:stone", []⟩ none))
        (fun _ => .int 0) 0 sightRule :=
  ⟨⟨sameFor_sight, rfl⟩,
    (run_inWorld .absent sightEvent sightRule sightWorld).1 otherWorld sameFor_sight _ 0, rfl,
    (run_inWorld .absent sightEvent sightRule farWorld).2 ⟨-16, 70, -1⟩ (fun _ _ _ => rfl) _ _ _ 0⟩

end Rule
end RuleGate
