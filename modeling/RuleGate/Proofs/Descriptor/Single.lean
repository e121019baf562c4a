import RuleGate.Proofs.Descriptor.Settled
import RuleGate.Proofs.Text.Split
import RuleGate.Proofs.World.Registry

/-!
# Lists of one descriptor

In a list a descriptor is first decoded, and what it decodes to is compiled as a descriptor, which
decodes it again. This makes a difference for a text in quotes only, and there it makes none for a
name that stays the same name (`ItemTest.compileAll_alone`). A name that looks like JSON is read
again, however, and blanks at the end of a name are lost, which matters in its damage and its tag.
-/

namespace RuleGate

open Failure (Similar)

namespace Descriptor

open Text (strip isBlank)

variable {raw : Json} {s : Text}

/-- A text in quotes, with what stands between them. -/
def Quotes (raw : Json) (s : Text) : Prop :=
  ∃ t, raw = .str t ∧ looksLikeJson (strip t) ∧ Json.read (strip t) = .ok (.str s)

/-- A name that is the same name when it is decoded: if blanks at its end are lost, it has no damage
and no tag that they could belong to. -/
structure Steady (s : Text) : Prop where
  isName : looksLikeJson (strip s) = false
  bare : (∀ c ∈ s.getLast?, isBlank c = false) ∨ .char '/' ∉ s ∧ .char '@' ∉ s

theorem steady_strip {t : Text} (h : looksLikeJson (strip t) = false) : Steady (strip t) where
  isName := by rwa [show strip (strip t) = strip t from Text.trim_trim isBlank t]
  bare := .inl (Text.not_isBlank_getLast?_strip t)

theorem decode_eq_str_iff : decode raw = .ok (.str s) ↔
    Quotes raw s ∨ ∃ t, raw = .str t ∧ looksLikeJson (strip t) = false ∧ s = strip t := by
  cases raw with
  | str t =>
    simp only [decode, decodeText, Quotes, Json.str.injEq, exists_eq_left']
    cases hlooks : looksLikeJson (strip t) with
    | false => simp [eq_comm]
    | true => rcases Json.read (strip t) with (e | digits) | v <;> simp
  | _ => simp [decode, Quotes]

theorem similar_onPart {α β : Type} {f g : α → Except Failure β} (part : Option α)
    (h : ∀ a, Similar (f a) (g a)) : Similar (onPart f part) (onPart g part) := by
  cases part with
  | none => exact .ok none
  | some a => exact (h a).map some

end Descriptor

namespace ItemTest

open Descriptor (Quotes Steady)
open ResourceName (normalise)

variable {r : Registry} {raw v : Json} {s : Text}

theorem similar_knownItem {name name' : Text} (h : normalise name = normalise name') :
    Similar (knownItem r name) (knownItem r name') := by
  rw [knownItem, knownItem, h, r.hasItem_factorsThrough h]
  split
  · exact .ok _
  · exact .compile _ _

theorem similar_compactDamage (whole whole' cs : Text) :
    Similar (compactDamage whole cs) (compactDamage whole' cs) := by
  unfold compactDamage
  split
  · exact .ok 0
  · cases Text.integer? cs with
    | some i => exact .ok i
    | none => exact .compile _ _

theorem similar_compactTag (whole whole' cs : Text) :
    Similar (compactTag whole cs) (compactTag whole' cs) := by
  unfold compactTag
  split
  · exact .ok Json.null
  · rcases Json.read cs with (e | digits) | v
    · exact .compile _ _
    · exact .number _
    · exact .ok v

/-- Texts of the same parts, but for blanks around the names. -/
theorem similar_compileCompact {whole whole' named named' name name' : Text}
    {tag damage : Option Text} (hwhole : Text.splitAt '/' whole = (named, tag))
    (hnamed : Text.splitAt '@' named = (name, damage))
    (hwhole' : Text.splitAt '/' whole' = (named', tag))
    (hnamed' : Text.splitAt '@' named' = (name', damage))
    (h : Text.strip name = Text.strip name') :
    Similar (compileCompact r whole) (compileCompact r whole') := by
  simp only [compileCompact, hwhole, hnamed, hwhole', hnamed']
  refine (similar_knownItem (ResourceName.normalise_congr h)).bind fun item => ?_
  refine (Descriptor.similar_onPart damage
    (similar_compactDamage whole whole')).bind fun damage => ?_
  exact (Descriptor.similar_onPart tag (similar_compactTag whole whole')).bind fun tag => .refl _

theorem similar_compileCompact_strip (h : Steady s) :
    Similar (compileCompact r s) (compileCompact r (Text.strip s)) := by
  rcases h.bare with hlast | ⟨hslash, hat⟩
  · obtain ⟨left, hleft, hs⟩ := Text.exists_eq_append_strip hlast
    have hslash : .char '/' ∉ left := Text.not_mem_of_forall_isBlank hleft (by decide)
    have hat : .char '@' ∉ left := Text.not_mem_of_forall_isBlank hleft (by decide)
    have hwhole := Text.splitAt_append_left hslash (Text.strip s)
    rw [← hs] at hwhole
    exact similar_compileCompact hwhole (Text.splitAt_append_left hat _) rfl rfl
      (Text.trim_append_left hleft)
  · have hpart := (Text.strip_infix s).subset
    exact similar_compileCompact (Text.splitAt_of_not_mem hslash) (Text.splitAt_of_not_mem hat)
      (Text.splitAt_of_not_mem fun h => hslash (hpart h))
      (Text.splitAt_of_not_mem fun h => hat (hpart h)) (Text.trim_trim _ s).symm

/-- A list of this one descriptor comes to what the descriptor comes to by itself. -/
structure Alone (r : Registry) (raw : Json) : Prop where
  compiled : ∀ {t}, compile r raw = .ok t → compileAll r [raw] = .ok ⟨[t], []⟩
  skipped : ∀ {e}, compile r raw = .error (.compile e) →
    ∃ w, compileAll r [raw] = .ok ⟨[], [w]⟩ ∧ w.level = .warning
  stopped : ∀ {f}, compile r raw = .error (.number f) → compileAll r [raw] = .error f

variable {entry : Json}

theorem compileEntry_eq_test_iff {t : ItemTest} :
    compileEntry r entry = .ok ⟨[t], []⟩ ↔ compile r entry = .ok t := by
  unfold compileEntry
  rcases compile r entry with (e | f) | t' <;> simp

theorem compileEntry_eq_warning_iff :
    (∃ w, compileEntry r entry = .ok ⟨[], [w]⟩ ∧ w.level = .warning) ↔
      ∃ e, compile r entry = .error (.compile e) := by
  unfold compileEntry
  rcases compile r entry with (e | f) | t <;> simp [Diagnostic.level]

theorem compileEntry_eq_error_iff {f : NumberFault} :
    compileEntry r entry = .error f ↔ compile r entry = .error (.number f) := by
  unfold compileEntry
  rcases compile r entry with (e | f') | t <;> simp

theorem alone_iff_similar (hentry : entriesOf raw = [entry]) :
    Alone r raw ↔ Similar (compile r raw) (compile r entry) := by
  have hall : compileAll r [raw] = compileEntry r entry := by
    rw [compileAll_singleton, compileExpanded_eq, hentry, compileEntries_singleton]
  rw [Similar.iff_forall]
  constructor
  · intro h
    refine ⟨fun ht => ?_, fun he => ?_, fun hf => ?_⟩
    · exact compileEntry_eq_test_iff.1 (hall ▸ h.compiled ht)
    · exact compileEntry_eq_warning_iff.1 (hall ▸ h.skipped he)
    · exact compileEntry_eq_error_iff.1 (hall ▸ h.stopped hf)
  · rintro ⟨hok, hcompile, hnumber⟩
    refine ⟨fun ht => ?_, fun he => ?_, fun hf => ?_⟩
    · exact hall ▸ compileEntry_eq_test_iff.2 (hok ht)
    · exact hall ▸ compileEntry_eq_warning_iff.2 (hcompile he)
    · exact hall ▸ compileEntry_eq_error_iff.2 (hnumber hf)

theorem similar_of_decode (hv : Descriptor.decode raw = .ok v) (htext : ∀ s, v ≠ .str s) :
    Similar (compile r raw) (compile r v) := by
  rw [compile, compile, hv]
  cases v with
  | str s => exact absurd rfl (htext s)
  | obj object => exact .refl (compileObject r object)
  -- what is no item is named in the warning as it was written
  | _ => exact .compile _ _

theorem compile_of_decode_str (h : Descriptor.decode raw = .ok (.str s)) :
    compile r raw = compileCompact r s := by
  rw [compile, h]
  rfl

theorem similar_compile_name (h : Steady s) :
    Similar (compileCompact r s) (compile r (.str s)) := by
  have hdecode : Descriptor.decode (.str s) = .ok (.str (Text.strip s)) :=
    Descriptor.decode_eq_str_iff.2 (.inr ⟨s, rfl, h.isName, rfl⟩)
  rw [compile_of_decode_str hdecode]
  exact similar_compileCompact_strip h

/-- Only what stands between quotes is decoded to anything new a second time. -/
theorem alone_iff (hlist : ∀ vs, Descriptor.decode raw ≠ .ok (.arr vs)) : Alone r raw ↔
    ∀ {s}, Quotes raw s → Similar (compileCompact r s) (compile r (.str s)) := by
  have hdecode {s : Text} (hs : Quotes raw s) : Descriptor.decode raw = .ok (.str s) :=
    Descriptor.decode_eq_str_iff.2 (.inl hs)
  cases hraw : Descriptor.decode raw with
  | error e =>
    have hentry : entriesOf raw = [raw] := by rw [entriesOf, hraw]
    rw [alone_iff_similar hentry]
    refine iff_of_true (.refl _) fun hs => ?_
    cases hraw.symm.trans (hdecode hs)
  | ok v =>
    have hentry : entriesOf raw = [v] := by
      rw [entriesOf, hraw]
      cases v with
      | arr vs => exact absurd hraw (hlist vs)
      | _ => rfl
    rw [alone_iff_similar hentry]
    cases v with
    | str s =>
      rw [compile_of_decode_str hraw]
      constructor
      · intro h s' hs'
        cases hraw.symm.trans (hdecode hs')
        exact h
      · intro h
        rcases Descriptor.decode_eq_str_iff.1 hraw with hs | ⟨t, -, hname, rfl⟩
        · exact h hs
        -- without quotes it is trimmed by now and stays the same name
        · exact similar_compile_name (Descriptor.steady_strip hname)
    | _ =>
      refine iff_of_true (similar_of_decode hraw fun _ h => nomatch h) fun hs => ?_
      cases hraw.symm.trans (hdecode hs)

/-- A descriptor by itself and in a list comes to the same unless it is a text in quotes that
comes to something else when it is read as a descriptor again. -/
theorem compileAll_alone (hlist : ∀ vs, Descriptor.decode raw ≠ .ok (.arr vs)) :
    (Alone r raw ↔ ∀ {s}, Quotes raw s → Similar (compileCompact r s) (compile r (.str s))) ∧
      ((∀ {s}, Quotes raw s → Steady s) → Alone r raw) := by
  refine ⟨alone_iff hlist, fun hquotes => (alone_iff hlist).2 fun hs => ?_⟩
  exact similar_compile_name (hquotes hs)

def sticks : Registry := .build ["stick"] [] []

/-- The name of a stick in quotes, with a blank in front of it. -/
def quotedStick : Json := .str "\" stick@5\""

theorem decode_quotedStick : Descriptor.decode quotedStick = .ok (.str " stick@5") := by
  with_unfolding_all rfl

theorem compileAll_alone_quotedStick :
    (∀ vs, Descriptor.decode quotedStick ≠ .ok (.arr vs)) ∧
      (∀ {s}, Quotes quotedStick s → Steady s) ∧ Alone sticks quotedStick := by
  have hlist (vs : List Json) : Descriptor.decode quotedStick ≠ .ok (.arr vs) := by
    rw [decode_quotedStick]
    intro h
    cases h
  have hquotes {s : Text} (hs : Quotes quotedStick s) : Steady s := by
    cases decode_quotedStick.symm.trans (Descriptor.decode_eq_str_iff.2 (.inl hs))
    exact ⟨by decide, .inl (by decide)⟩
  exact ⟨hlist, hquotes, (compileAll_alone hlist).2 hquotes⟩

/-- The name of a stick in quotes twice is no item by itself, and in a list it is a stick. -/
theorem quoted_twice :
    Descriptor.decode (.str "\"\\\"stick\\\"\"") = .ok (.str "\"stick\"") ∧
      compile sticks (.str "\"\\\"stick\\\"\"") =
        .error (.compile (.unknownItem "\"stick\"")) ∧
      compileAll sticks [.str "\"\\\"stick\\\"\""] =
        .ok ⟨[.compact "minecraft:stick" none none], []⟩ :=
  ⟨by with_unfolding_all rfl, by with_unfolding_all rfl, by with_unfolding_all rfl⟩

end ItemTest
end RuleGate
