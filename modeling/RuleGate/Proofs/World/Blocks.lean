import RuleGate.Proofs.Lists
import RuleGate.Proofs.World.BlockState
import RuleGate.World.Basic

/-!
# Blocks and entities of a changed world

Setting a block writes the table of blocks only, and there one position only; the same holds of
entities. A block is found as it was set, except that of air, whatever its properties, the plain
state is found.

The table never holds air, and no position twice (`World.StoresNoAir`): setting a block keeps this.
So after any changes of an empty table the last change at a position says what is found there, and
where there was none, or the last one was to air, plain air is found (`World.change_settled`).
-/

namespace RuleGate

/-- What is found where a state has been set. -/
def BlockState.found (s : BlockState) : BlockState :=
  if s.block = air then airState else s

namespace World

/-- Setting a block writes no table but that of the blocks, and no place but its own. -/
theorem exists_setBlock_eq (w : World) (q : BlockPos) (state : BlockState) :
    ∃ blocks, w.setBlock q state = { w with blocks } ∧
      ∀ p, p ≠ q → blocks.get? p = w.blocks.get? p := by
  unfold setBlock
  split
  · exact ⟨_, rfl, fun p hp => (Table.get?_erase _ q p).trans (if_neg hp.symm)⟩
  · exact ⟨_, rfl, fun p hp => (Table.get?_insert _ q p state).trans (if_neg hp.symm)⟩

theorem exists_setEntity_eq (w : World) (q : BlockPos) (entity : Option BlockEntity) :
    ∃ entities, w.setEntity q entity = { w with entities } ∧
      ∀ p, p ≠ q → entities.get? p = w.entities.get? p := by
  cases entity with
  | none => exact ⟨_, rfl, fun p hp => (Table.get?_erase _ q p).trans (if_neg hp.symm)⟩
  | some b => exact ⟨_, rfl, fun p hp => (Table.get?_insert _ q p b).trans (if_neg hp.symm)⟩

variable (w : World) (q p : BlockPos)

theorem blockAt_setBlock (s : BlockState) :
    (w.setBlock q s).blockAt p = if q = p then s.found else w.blockAt p := by
  unfold setBlock BlockState.found blockAt
  by_cases hair : s.block = air
  · rw [if_pos hair, if_pos hair, Table.get?_erase]
    split <;> rfl
  · rw [if_neg hair, if_neg hair, Table.get?_insert]
    split <;> rfl

/-- The table of blocks is fit to be searched. -/
structure StoresNoAir : Prop where
  solid : ∀ entry ∈ w.blocks, entry.2.block ≠ air
  once : (w.blocks.map Prod.fst).Nodup

variable {w} in
theorem StoresNoAir.setBlock (h : w.StoresNoAir) (s : BlockState) :
    (w.setBlock q s).StoresNoAir := by
  unfold World.setBlock
  split
  case isTrue =>
    refine ⟨fun entry hentry => h.solid entry (List.mem_of_mem_filter hentry), ?_⟩
    exact h.once.sublist (List.filter_sublist.map Prod.fst)
  case isFalse hsolid =>
    refine ⟨fun entry hentry => ?_, Table.nodup_insert h.once q s⟩
    rcases Table.mem_insert hentry with rfl | hentry
    · exact hsolid
    · exact h.solid entry hentry

theorem blockAt_setEntity (entity : Option BlockEntity) :
    (w.setEntity q entity).blockAt p = w.blockAt p := by
  obtain ⟨entities, heq, -⟩ := exists_setEntity_eq w q entity
  rw [heq]
  rfl

theorem entityAt_setBlock (s : BlockState) : (w.setBlock q s).entityAt p = w.entityAt p := by
  obtain ⟨blocks, heq, -⟩ := exists_setBlock_eq w q s
  rw [heq]
  rfl

theorem entityAt_setEntity (entity : Option BlockEntity) :
    (w.setEntity q entity).entityAt p = if q = p then entity else w.entityAt p := by
  unfold entityAt
  cases entity with
  | none => exact Table.get?_erase _ q p
  | some b => exact Table.get?_insert _ q p b

end World

structure BlockChange where
  pos : BlockPos
  block : Text
  properties : List (Text × Text) := []

def BlockChange.state (c : BlockChange) : BlockState :=
  .of c.block c.properties

/-- Air goes by all spellings of its name, and its values are lost. -/
theorem BlockChange.found_state (c : BlockChange) : c.state.found =
    if ResourceName.normalise c.block = air then .airState else c.state := by
  rw [BlockState.found, state, BlockState.block_of]

namespace World

/-- The world after changes, one after another. -/
def change (w : World) (changes : List BlockChange) : World :=
  changes.foldl (fun w c => w.setBlock c.pos c.state) w

variable {w : World} (changes : List BlockChange)

theorem StoresNoAir.change (h : w.StoresNoAir) : (w.change changes).StoresNoAir := by
  induction changes generalizing w with
  | nil => exact h
  | cons c rest ih => exact ih (h.setBlock c.pos c.state)

theorem blockAt_change (w : World) (pos : BlockPos) : (w.change changes).blockAt pos =
    ((changes.filter fun c => c.pos = pos).getLast?.map fun c => c.state.found).getD
      (w.blockAt pos) :=
  List.foldl_lastWrite (fun w => w.blockAt pos)
    (fun w c => w.blockAt_setBlock c.pos pos c.state) w changes

/-- What changes make of a world in which no block is stored. -/
structure Settled (w : World) (changes : List BlockChange) : Prop where
  solid : ∀ entry ∈ (w.change changes).blocks, entry.2.block ≠ air
  once : ((w.change changes).blocks.map Prod.fst).Nodup
  untouched : ∀ pos, (∀ c ∈ changes, c.pos ≠ pos) → (w.change changes).blockAt pos = .airState
  last : ∀ earlier c later, changes = earlier ++ c :: later → (∀ c' ∈ later, c'.pos ≠ c.pos) →
    (w.change changes).blockAt c.pos =
      if ResourceName.normalise c.block = air then .airState else c.state
  elsewhere : ∀ pos other, (other.filter fun c => c.pos = pos) =
      (changes.filter fun c => c.pos = pos) →
    (w.change other).blockAt pos = (w.change changes).blockAt pos

/-- The last change at a position settles what is found there; air is never stored. -/
theorem change_settled (h : w.blocks = []) : w.Settled changes := by
  have hempty : w.StoresNoAir := by
    constructor <;> simp [h]
  have hair (pos : BlockPos) : w.blockAt pos = .airState := by
    rw [blockAt, h]
    rfl
  refine ⟨(hempty.change changes).solid, (hempty.change changes).once, ?_, ?_, ?_⟩
  · intro pos huntouched
    have hnone : (changes.filter fun c => c.pos = pos) = [] := by simpa using huntouched
    rw [blockAt_change, hnone]
    exact hair pos
  · rintro earlier c later rfl hlater
    have hlast : ((earlier ++ c :: later).filter fun c' => c'.pos = c.pos).getLast? = some c := by
      have hnone : (later.filter fun c' => c'.pos = c.pos) = [] := by simpa using hlater
      simp [hnone]
    rw [blockAt_change, hlast]
    exact c.found_state
  · intro pos other hsame
    rw [blockAt_change, blockAt_change, hsame]

/-- Stone, a chest in another place, and air with a value in the place of the stone. -/
def replacedStone : List BlockChange :=
  [⟨⟨0, 0, 0⟩, "stone", []⟩, ⟨⟨-1, 0, 7⟩, "chest", [("facing", "east")]⟩,
    ⟨⟨0, 0, 0⟩, " air ", [("lit", "true")]⟩]

theorem change_settled_replacedStone :
    ({} : World).blocks = [] ∧ ({} : World).Settled replacedStone :=
  ⟨rfl, change_settled replacedStone rfl⟩

end World
end RuleGate
