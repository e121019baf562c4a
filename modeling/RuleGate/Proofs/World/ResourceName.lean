import Mathlib.Data.List.DropRight
import RuleGate.World.ResourceName

/-!
# Normal forms of names

Trimming a text twice is trimming it once. The normal form of a name has a colon and no blanks
around it, and names that are so already are left alone (`ResourceName.normalise_eq_self_iff`). So a
name is brought into its normal form once and for all, and has the same namespace before and after.
Two names have one normal form just if they are the same but for blanks around them and the default
namespace that one of them leaves out (`ResourceName.normalise_eq_normalise_iff`).
-/

namespace RuleGate

namespace Text

variable {p : CodePoint → Bool} {t u v : Text}

theorem trim_eq_rdropWhile (p : CodePoint → Bool) (t : Text) :
    trim p t = (t.dropWhile p).rdropWhile p := rfl

theorem dropWhile_eq_self_congr (hv : v ≠ []) (hvu : v <+: u) :
    u.dropWhile p = u ↔ v.dropWhile p = v := by
  obtain ⟨w, rfl⟩ := hvu
  cases v with
  | nil => exact absurd rfl hv
  | cons c v => simp [List.dropWhile_eq_self_iff]

theorem dropWhile_trim (p : CodePoint → Bool) (t : Text) :
    (trim p t).dropWhile p = trim p t := by
  by_cases hnil : trim p t = []
  · rw [hnil, List.dropWhile_nil]
  · exact (dropWhile_eq_self_congr hnil (List.rdropWhile_prefix p _)).1
      (List.dropWhile_idempotent p t)

theorem rdropWhile_trim (p : CodePoint → Bool) (t : Text) :
    (trim p t).rdropWhile p = trim p t :=
  List.rdropWhile_idempotent p _

theorem trim_trim (p : CodePoint → Bool) (t : Text) : trim p (trim p t) = trim p t := by
  rw [trim_eq_rdropWhile p (trim p t), dropWhile_trim, rdropWhile_trim]

theorem rdropWhile_append (hu : u.rdropWhile p = u) (hv : v.rdropWhile p = v) :
    (u ++ v).rdropWhile p = u ++ v := by
  by_cases hnil : v = []
  · rw [hnil, List.append_nil, hu]
  · have hrev : v.reverse.dropWhile p = v.reverse := List.reverse_eq_iff.1 hv
    have hpre : v.reverse <+: (u ++ v).reverse := by
      rw [List.reverse_append]
      exact List.prefix_append _ _
    rw [List.rdropWhile, (dropWhile_eq_self_congr (by simpa using hnil) hpre).2 hrev,
      List.reverse_reverse]

theorem trim_append (hne : u ≠ []) (hu : u.dropWhile p = u) (hu' : u.rdropWhile p = u)
    (hv : v.rdropWhile p = v) : trim p (u ++ v) = u ++ v := by
  rw [trim_eq_rdropWhile, (dropWhile_eq_self_congr hne (List.prefix_append u v)).2 hu,
    rdropWhile_append hu' hv]

end Text

namespace ResourceName

def defaultPrefix : Text := defaultNamespace ++ ":"

theorem strip_defaultPrefix_append (name : Text) :
    Text.strip (defaultPrefix ++ Text.strip name) = defaultPrefix ++ Text.strip name :=
  Text.trim_append (by decide) (by decide) (by decide) (Text.rdropWhile_trim _ name)

theorem normalise_congr {name name' : Text} (h : Text.strip name = Text.strip name') :
    normalise name = normalise name' := by
  rw [normalise, normalise, h]

theorem normalise_of_contains {name : Text} (h : (Text.strip name).contains ':') :
    normalise name = Text.strip name := by
  unfold normalise
  rw [if_pos h]

theorem normalise_of_not_contains {name : Text} (h : ¬ (Text.strip name).contains ':') :
    normalise name = defaultPrefix ++ Text.strip name := by
  unfold normalise
  rw [if_neg h]
  rfl

theorem normalise_cases (name : Text) :
    (Text.strip name).contains ':' ∧ normalise name = Text.strip name ∨
      ¬ (Text.strip name).contains ':' ∧ normalise name = defaultPrefix ++ Text.strip name := by
  by_cases h : (Text.strip name).contains ':'
  · exact .inl ⟨h, normalise_of_contains h⟩
  · exact .inr ⟨h, normalise_of_not_contains h⟩

theorem contains_defaultPrefix_append (text : Text) : (defaultPrefix ++ text).contains ':' := by
  simp [defaultPrefix, Text.ofString, Text.ofList]

theorem contains_normalise (name : Text) : (normalise name).contains ':' := by
  rcases normalise_cases name with ⟨h, heq⟩ | ⟨-, heq⟩
  · rwa [heq]
  · rw [heq]
    exact contains_defaultPrefix_append _

theorem strip_normalise (name : Text) : Text.strip (normalise name) = normalise name := by
  rcases normalise_cases name with ⟨-, heq⟩ | ⟨-, heq⟩
  · rw [heq]
    exact Text.trim_trim _ name
  · rw [heq, strip_defaultPrefix_append]

/-- The normal forms are the names with a colon and without blanks around them. -/
theorem normalise_eq_self_iff {name : Text} :
    normalise name = name ↔ name.contains ':' ∧ Text.strip name = name := by
  constructor
  · intro h
    rw [← h]
    exact ⟨contains_normalise name, strip_normalise name⟩
  · rintro ⟨hcolon, hstrip⟩
    rw [normalise_of_contains (by rwa [hstrip]), hstrip]

theorem normalise_normalise (name : Text) : normalise (normalise name) = normalise name :=
  normalise_eq_self_iff.2 ⟨contains_normalise name, strip_normalise name⟩

theorem namespaceOf_normalise (name : Text) : namespaceOf (normalise name) = namespaceOf name := by
  rw [namespaceOf, normalise_normalise]
  rfl

/-- The first name has no namespace, and the second is the first with the default one. -/
def Abbreviates (name full : Text) : Prop :=
  ¬ (Text.strip name).contains ':' ∧ Text.strip full = defaultPrefix ++ Text.strip name

theorem Abbreviates.normalise_eq {name full : Text} (h : Abbreviates name full) :
    normalise name = normalise full := by
  obtain ⟨hcolon, hfull⟩ := h
  have hfullColon : (Text.strip full).contains ':' := hfull ▸ contains_defaultPrefix_append _
  rw [normalise_of_not_contains hcolon, normalise_of_contains hfullColon, hfull]

/-- Two spellings of one name. -/
def SameName (name other : Text) : Prop :=
  Text.strip name = Text.strip other ∨ Abbreviates name other ∨ Abbreviates other name

theorem normalise_eq_normalise_iff {name other : Text} :
    normalise name = normalise other ↔ SameName name other := by
  constructor
  · intro h
    rcases normalise_cases name with ⟨-, heq⟩ | ⟨hcolon, heq⟩ <;>
      rcases normalise_cases other with ⟨-, heq'⟩ | ⟨hcolon', heq'⟩ <;>
      rw [heq, heq'] at h
    · exact .inl h
    · exact .inr (.inr ⟨hcolon', h⟩)
    · exact .inr (.inl ⟨hcolon, h.symm⟩)
    · exact .inl (List.append_cancel_left h)
  · rintro (h | h | h)
    · exact normalise_congr h
    · exact h.normalise_eq
    · exact h.normalise_eq.symm

/-- An em space and an information separator are blanks; a second colon belongs to the path. -/
example : normalise "\u2003stone\x1f" = normalise " minecraft:stone" ∧
    normalise "a:stone:" ≠ normalise "a:stone" := by
  decide

end ResourceName
end RuleGate
