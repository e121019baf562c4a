import Mathlib.Logic.Function.Basic
import RuleGate.Proofs.Table
import RuleGate.Proofs.World.ResourceName
import RuleGate.World.Registry

/-!
# Names in registries

A registry looks every name up by its normal form. So what it answers about a name depends on the
normal form alone, and is answered again about that form. An item or a block is known just if one
whose name has the same normal form is listed, and only a block that is listed has a default state
(`Registry.defaultState?_build_eq_none_iff`).
-/

namespace RuleGate

open ResourceName (normalise normalise_normalise)

theorem BlockState.of_factorsThrough (ps : List (Text × Text)) :
    (fun block => of block ps).FactorsThrough normalise := by
  intro block other h
  simp only [of, h]

namespace Registry

variable (r : Registry)

theorem hasBlock_factorsThrough : r.hasBlock.FactorsThrough normalise := by
  intro name other h
  rw [hasBlock, hasBlock, h]

theorem hasItem_factorsThrough : r.hasItem.FactorsThrough normalise := by
  intro name other h
  rw [hasItem, hasItem, h, r.hasBlock_factorsThrough h]

theorem blockProperties_factorsThrough : r.blockProperties.FactorsThrough normalise := by
  intro name other h
  rw [blockProperties, blockProperties, h]

theorem defaultState?_factorsThrough : r.defaultState?.FactorsThrough normalise := by
  intro name other h
  have hof (ps : List (Text × Text)) : BlockState.of name ps = .of other ps :=
    BlockState.of_factorsThrough ps h
  simp only [defaultState?, h, hof]

theorem blockProperties_normalise (block : Text) :
    r.blockProperties (normalise block) = r.blockProperties block :=
  r.blockProperties_factorsThrough (normalise_normalise block)

theorem defaultState?_normalise (block : Text) :
    r.defaultState? (normalise block) = r.defaultState? block :=
  r.defaultState?_factorsThrough (normalise_normalise block)

variable {r}

theorem isSome_defaultState? (name : Text) : (r.defaultState? name).isSome = r.hasBlock name :=
  Option.isSome_map

/-- Narrowing a known block looks up a default state that is there. -/
theorem exists_defaultState? {name : Text} (h : r.hasBlock name) :
    ∃ s, r.defaultState? (normalise name) = some s := by
  rw [defaultState?_normalise]
  exact Option.isSome_iff_exists.1 ((isSome_defaultState? name).trans h)

variable {items : List Text} {blocks : List (Text × Table Text (List Text))}
  {biomeTypes : List (Text × List Text)} {name : Text}

theorem hasBlock_build_iff : (build items blocks biomeTypes).hasBlock name ↔
    ∃ b ∈ blocks, normalise b.1 = normalise name := by
  refine Table.isSome_get?_foldl_insert.trans ?_
  constructor
  · rintro (hnil | ⟨_, hmem, heq⟩)
    · cases hnil
    · obtain ⟨b, hb, rfl⟩ := List.mem_map.1 hmem
      exact ⟨b, hb, heq⟩
  · rintro ⟨b, hb, heq⟩
    exact .inr ⟨_, List.mem_map_of_mem hb, heq⟩

theorem hasItem_build_iff : (build items blocks biomeTypes).hasItem name ↔
    (∃ item ∈ items, normalise item = normalise name) ∨
      ∃ b ∈ blocks, normalise b.1 = normalise name := by
  rw [hasItem, Bool.or_eq_true, decide_eq_true_iff, hasBlock_build_iff]
  exact or_congr_left List.mem_map

theorem defaultState?_build_eq_none_iff :
    (build items blocks biomeTypes).defaultState? name = none ↔
      ∀ b ∈ blocks, normalise b.1 ≠ normalise name := by
  rw [← Option.not_isSome_iff_eq_none, isSome_defaultState?, hasBlock_build_iff]
  push Not
  rfl

end Registry
end RuleGate
