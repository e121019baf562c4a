import RuleGate.Descriptor.Block
import RuleGate.Proofs.Descriptor.Single

/-!
# Spellings of one name

A name in a rule is brought into its normal form more than once: where it is read, where it is
looked up and where a state is made of it. This comes to the same as doing it once, so two spellings
of one name are answered alike, by a registry and by the structures of a world, and describe the
same item or block (`Registry.LooksUpNormalForms`). A registry knows what was listed when it was
built under every spelling, and nothing else (`Registry.build_looksUpNormalForms`).
-/

namespace RuleGate

open Failure (Similar)
open ResourceName (normalise namespaceOf SameName)

theorem World.inStructure_factorsThrough (w : World) (pos : BlockPos) :
    (w.inStructure pos).FactorsThrough normalise := by
  intro name other h
  simp only [inStructure, h]

namespace BlockTest

variable {r : Registry} {name other : Text}

theorem similar_knownBlock (h : normalise name = normalise other) :
    Similar (knownBlock r name) (knownBlock r other) := by
  rw [knownBlock, knownBlock, h, r.hasBlock_factorsThrough h]
  split
  · exact .ok _
  · exact .compile _ _

theorem similar_identity (ps : List BlockProperty) (h : normalise name = normalise other) :
    Similar (identity r ps name) (identity r ps other) :=
  (similar_knownBlock h).bind fun _ => .refl _

end BlockTest

/-- What is known of the normal form of a name, and of the names that share it. -/
structure ResourceName.Lawful (name : Text) : Prop where
  normal : normalise (normalise name) = normalise name
  contains_colon : (normalise name).contains ':'
  namespaceOf_eq : namespaceOf name = namespaceOf (normalise name)
  left_alone_iff : normalise name = name ↔ name.contains ':' ∧ Text.strip name = name
  same_iff : ∀ other, normalise name = normalise other ↔ SameName name other

theorem ResourceName.lawful (name : Text) : Lawful name where
  normal := normalise_normalise name
  contains_colon := contains_normalise name
  namespaceOf_eq := (namespaceOf_normalise name).symm
  left_alone_iff := normalise_eq_self_iff
  same_iff _ := normalise_eq_normalise_iff

namespace Registry

/-- Names with one normal form get the same answer, whatever is asked about them. -/
structure LooksUpNormalForms (r : Registry) (w : World) : Prop where
  hasItem : r.hasItem.FactorsThrough normalise
  hasBlock : r.hasBlock.FactorsThrough normalise
  blockProperties : r.blockProperties.FactorsThrough normalise
  /-- A block that has no default state has none under any of its names. -/
  defaultState? : r.defaultState?.FactorsThrough normalise
  inStructure : ∀ pos, (w.inStructure pos).FactorsThrough normalise
  /-- Only an error tells which spelling was used. -/
  knownItem : ∀ {name other}, normalise name = normalise other →
    Similar (ItemTest.knownItem r name) (ItemTest.knownItem r other)
  identity : ∀ ps {name other}, normalise name = normalise other →
    Similar (BlockTest.identity r ps name) (BlockTest.identity r ps other)

theorem looksUpNormalForms (r : Registry) (w : World) : r.LooksUpNormalForms w where
  hasItem := r.hasItem_factorsThrough
  hasBlock := r.hasBlock_factorsThrough
  blockProperties := r.blockProperties_factorsThrough
  defaultState? := r.defaultState?_factorsThrough
  inStructure := w.inStructure_factorsThrough
  knownItem := ItemTest.similar_knownItem
  identity ps := BlockTest.similar_identity ps

/-- The items and blocks that a registry knows are the listed ones. -/
structure KnowsListed (r : Registry) (items : List Text)
    (blocks : List (Text × Table Text (List Text))) : Prop where
  hasItem_iff : ∀ name, r.hasItem name ↔
    (∃ item ∈ items, normalise item = normalise name) ∨
      ∃ b ∈ blocks, normalise b.1 = normalise name
  hasBlock_iff : ∀ name, r.hasBlock name ↔ ∃ b ∈ blocks, normalise b.1 = normalise name
  defaultState?_eq_none_iff : ∀ name, r.defaultState? name = none ↔
    ∀ b ∈ blocks, normalise b.1 ≠ normalise name

/-- A name is its normal form for all lookups, however often that form is taken. -/
theorem build_looksUpNormalForms (items : List Text)
    (blocks : List (Text × Table Text (List Text))) (biomeTypes : List (Text × List Text))
    (w : World) :
    (∀ name, ResourceName.Lawful name) ∧
      (build items blocks biomeTypes).LooksUpNormalForms w ∧
      (build items blocks biomeTypes).KnowsListed items blocks := by
  refine ⟨ResourceName.lawful, looksUpNormalForms _ w, ?_⟩
  exact ⟨fun _ => hasItem_build_iff, fun _ => hasBlock_build_iff,
    fun _ => defaultState?_build_eq_none_iff⟩

end Registry
end RuleGate
