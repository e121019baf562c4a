import Mathlib.Data.List.Induction
import RuleGate.Proofs.World.Blocks
import RuleGate.Snapshot.Build

/-!
# What placements leave at a position

Blocks are placed one after another, and each placement writes its own position only. So what is
found at a position comes from the placements there (`placementsAt`): the block from the last of
them, and the entity from the last that has one. These are the same placement unless the last has
no entity and an earlier one does; then the block is found with the entity of another one
(`WorldSection.build_foundAs`).
-/

namespace RuleGate.Snapshot

namespace PlacedBlock

variable (p : PlacedBlock) (w : World) (pos : BlockPos)

theorem exists_place_eq : ∃ blocks entities, p.place w = { w with blocks, entities } := by
  obtain ⟨blocks, hblocks, -⟩ := w.exists_setBlock_eq p.pos p.state
  unfold place
  rw [hblocks]
  cases p.entity with
  | none => exact ⟨blocks, _, rfl⟩
  | some e => exact ⟨blocks, _, rfl⟩

theorem blockAt_place :
    (p.place w).blockAt pos = if p.pos = pos then p.state.found else w.blockAt pos := by
  unfold place
  cases p.entity with
  | none => exact w.blockAt_setBlock p.pos pos p.state
  | some e =>
    exact (World.blockAt_setEntity _ p.pos pos _).trans (w.blockAt_setBlock p.pos pos p.state)

/-- What stood there stays if no entity is placed with the block. -/
theorem entityAt_place :
    (p.place w).entityAt pos =
      if p.pos = pos then (p.entity.map EntityEntry.build).or (w.entityAt pos)
      else w.entityAt pos := by
  unfold place
  cases p.entity with
  | none => exact (w.entityAt_setBlock p.pos pos p.state).trans (ite_self _).symm
  | some e =>
    change ((w.setBlock p.pos p.state).setEntity p.pos (some e.build)).entityAt pos =
      if p.pos = pos then some e.build else w.entityAt pos
    rw [World.entityAt_setEntity, World.entityAt_setBlock]

end PlacedBlock

def placementsAt (pos : BlockPos) (blocks : List PlacedBlock) : List PlacedBlock :=
  blocks.filter fun p => p.pos = pos

theorem placementsAt_concat (pos : BlockPos) (blocks : List PlacedBlock) (p : PlacedBlock) :
    placementsAt pos (blocks ++ [p]) =
      if p.pos = pos then placementsAt pos blocks ++ [p] else placementsAt pos blocks := by
  unfold placementsAt
  by_cases h : p.pos = pos <;> simp [h]

variable (blocks : List PlacedBlock) (w : World) (pos : BlockPos)

theorem exists_foldl_place_eq :
    ∃ blocks' entities,
      blocks.foldl PlacedBlock.place w = { w with blocks := blocks', entities } := by
  induction blocks using List.reverseRecOn with
  | nil => exact ⟨w.blocks, w.entities, rfl⟩
  | append_singleton rest p ih =>
    obtain ⟨_, _, hrest⟩ := ih
    rw [List.foldl_append, hrest]
    obtain ⟨blocks', entities, hplace⟩ := p.exists_place_eq { w with blocks := _, entities := _ }
    exact ⟨blocks', entities, hplace⟩

theorem blockAt_foldl_place :
    (blocks.foldl PlacedBlock.place w).blockAt pos =
      ((placementsAt pos blocks).getLast?.map fun p => p.state.found).getD (w.blockAt pos) :=
  List.foldl_lastWrite (fun w => w.blockAt pos) (fun w p => p.blockAt_place w pos) w blocks

theorem entityAt_foldl_place :
    (blocks.foldl PlacedBlock.place w).entityAt pos =
      (((placementsAt pos blocks).filterMap PlacedBlock.entity).getLast?.map
        EntityEntry.build).or (w.entityAt pos) := by
  induction blocks using List.reverseRecOn with
  | nil => rfl
  | append_singleton rest p ih =>
    rw [List.foldl_append, List.foldl_cons, List.foldl_nil, PlacedBlock.entityAt_place, ih,
      placementsAt_concat]
    split
    case isTrue =>
      have hlast : ([p].filterMap PlacedBlock.entity).getLast? = p.entity := by
        cases h : p.entity <;> simp [h]
      rw [List.filterMap_append, List.getLast?_append, hlast, Option.map_or, Option.or_assoc]
    case isFalse => rfl

namespace WorldSection

variable (s : WorldSection) (pos : BlockPos)

theorem exists_build_eq : ∃ blocks entities, s.build = { s.ground with blocks, entities } :=
  exists_foldl_place_eq s.blocks s.ground

theorem biomeAt_build : s.build.biomeAt pos = s.ground.defaultBiome := by
  obtain ⟨blocks, entities, heq⟩ := s.exists_build_eq
  rw [heq]
  rfl

theorem blockAt_build : s.build.blockAt pos =
    ((placementsAt pos s.blocks).getLast?.map fun p => p.state.found).getD .airState :=
  blockAt_foldl_place s.blocks s.ground pos

theorem entityAt_build : s.build.entityAt pos =
    ((placementsAt pos s.blocks).filterMap PlacedBlock.entity).getLast?.map EntityEntry.build :=
  (entityAt_foldl_place s.blocks s.ground pos).trans (Option.or_none ..)

/-- The placements at a position say what is found there: the state of the last, and the entity of
the last that has one. -/
structure FoundAs : Prop where
  untouched : placementsAt pos s.blocks = [] →
    s.build.blockAt pos = .airState ∧ s.build.entityAt pos = none
  state : ∀ p, (placementsAt pos s.blocks).getLast? = some p →
    s.build.blockAt pos = if p.state.block = air then .airState else p.state
  entity : s.build.entityAt pos =
    ((placementsAt pos s.blocks).filterMap PlacedBlock.entity).getLast?.map EntityEntry.build
  /-- When state and entity are those of one placement. -/
  together : ∀ p, (placementsAt pos s.blocks).getLast? = some p →
    (s.build.entityAt pos = p.entity.map EntityEntry.build ↔
      p.entity.isSome ∨ ∀ q ∈ placementsAt pos s.blocks, q.entity = none)
  elsewhere : ∀ s' : WorldSection, placementsAt pos s'.blocks = placementsAt pos s.blocks →
    s'.build.blockAt pos = s.build.blockAt pos ∧ s'.build.entityAt pos = s.build.entityAt pos

/-- The entity found is that of the last placement, unless that has none and another has one. -/
theorem entityAt_build_eq_last_iff {p : PlacedBlock}
    (hlast : (placementsAt pos s.blocks).getLast? = some p) :
    s.build.entityAt pos = p.entity.map EntityEntry.build ↔
      p.entity.isSome ∨ ∀ q ∈ placementsAt pos s.blocks, q.entity = none := by
  rw [entityAt_build]
  cases hentity : p.entity with
  | some e =>
    obtain ⟨earlier, heq⟩ := List.getLast?_eq_some_iff.1 hlast
    have hfound : ((placementsAt pos s.blocks).filterMap PlacedBlock.entity).getLast? = some e := by
      rw [heq, List.filterMap_append, List.filterMap_cons_some hentity, List.filterMap_nil,
        List.getLast?_concat]
    rw [hfound]
    exact iff_of_true rfl (.inl rfl)
  | none =>
    rw [Option.map_none, Option.map_eq_none_iff, List.getLast?_eq_none_iff,
      List.filterMap_eq_nil_iff]
    exact (or_iff_right Bool.false_ne_true).symm

theorem build_foundAs : s.FoundAs pos where
  untouched hnone := by
    rw [blockAt_build, entityAt_build, hnone]
    exact ⟨rfl, rfl⟩
  state p hlast := by
    rw [blockAt_build, hlast]
    rfl
  entity := s.entityAt_build pos
  together _ := s.entityAt_build_eq_last_iff pos
  elsewhere s' heq := by
    rw [blockAt_build, blockAt_build, entityAt_build, entityAt_build, heq]
    exact ⟨rfl, rfl⟩

/-- A chest with energy and then, in its place, plain stone. -/
def replacedChest : Json :=
  .obj [("blocks", .arr [
    .obj [("pos", .arr [.int 0, .int 0, .int 0]), ("block", .str "chest"),
      ("entity", .obj [("energy", .int 5)])],
    .obj [("pos", .arr [.int 0, .int 0, .int 0]), ("block", .str "stone")]])]

/-- The block is that of the last placement, and the entity is not. -/
theorem entity_outlives_block :
    ∃ s last, WorldSection.shape replacedChest = .valid s ∧
      (placementsAt ⟨0, 0, 0⟩ s.blocks).getLast? = some last ∧ last.entity = none ∧
      s.build.blockAt ⟨0, 0, 0⟩ = ⟨"minecraft:stone", []⟩ ∧
      s.build.entityAt ⟨0, 0, 0⟩ = some { energy := some 5 } :=
  ⟨_, _, rfl, rfl, rfl, by decide, rfl⟩

end WorldSection

end RuleGate.Snapshot
