import Mathlib.Data.List.Forall2
import Mathlib.Data.List.Induction

/-!
# Lists item by item

Two lists whose items are related one by one have a partner for each item, and a list has such a
partner if each of its items has one. Where each item of a list either writes what is seen of a
state or leaves it alone, the last one that writes decides (`List.foldl_lastWrite`).
-/

namespace List

variable {α β : Type} {R : α → β → Prop} {xs : List α} {ys : List β}

theorem exists_forall₂ (h : ∀ x ∈ xs, ∃ y, R x y) : ∃ ys, Forall₂ R xs ys := by
  induction xs with
  | nil => exact ⟨[], .nil⟩
  | cons x rest ih =>
    obtain ⟨⟨y, hy⟩, hrest⟩ := forall_mem_cons.1 h
    obtain ⟨ys, hys⟩ := ih hrest
    exact ⟨y :: ys, .cons hy hys⟩

theorem Forall₂.exists_getElem? (h : Forall₂ R xs ys) {k : Nat} {x : α} (hx : xs[k]? = some x) :
    ∃ y, ys[k]? = some y ∧ R x y := by
  obtain ⟨hk, rfl⟩ := getElem?_eq_some_iff.1 hx
  have hk' : k < ys.length := h.length_eq ▸ hk
  exact ⟨ys[k], getElem?_eq_getElem hk', h.get hk hk'⟩

theorem map_mapIdx {γ : Type} (f : Nat → α → β) (g : β → γ) :
    (xs.mapIdx f).map g = xs.mapIdx fun n x => g (f n x) := by
  rw [mapIdx_eq_zipIdx_map, mapIdx_eq_zipIdx_map, map_map]
  rfl

theorem foldl_lastWrite {σ : Type} {step : σ → α → σ} {here : α → Prop} [DecidablePred here]
    {written : α → β} (seen : σ → β)
    (h : ∀ s a, seen (step s a) = if here a then written a else seen s) (s : σ) (l : List α) :
    seen (l.foldl step s) = ((l.filter here).getLast?.map written).getD (seen s) := by
  induction l using List.reverseRecOn with
  | nil => rfl
  | append_singleton rest a ih =>
    rw [foldl_append, foldl_cons, foldl_nil, h, ih, filter_append]
    by_cases ha : here a <;> simp [ha]

end List
