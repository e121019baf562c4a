import RuleGate.Proofs.Descriptor.Properties

/-!
# Entries that are passed over

An entry for a property that the block does not have, or with a value that is not allowed, writes
nothing. So a block that is found has the value that a single entry asks for if it is allowed, and
is otherwise in its default state (`BlockTest.compile_requested`). Leaving out an entry for an
unknown property changes nothing as long as others remain. Without the last of them, however, the
block may be in any state, and not only in its default one (`BlockTest.compile_unknownName`).
-/

namespace RuleGate

namespace BlockTest

variable {r : Registry} {block : Text} {raw raw' : Json} {d : BlockDescriptor} {s : BlockState}
  {w : World} {pos : BlockPos} {compiled : Compiled}

/-- The places of a world at which a descriptor says yes. -/
def Accepts (r : Registry) (raw : Json) (w : World) (pos : BlockPos) : Prop :=
  ∃ compiled, compile r raw = .ok compiled ∧ allHold w pos compiled.tests = .ok true

theorem narrowed_of_not_allowed (h : r.defaultState? block = some s) {p : BlockProperty}
    (hp : ¬ Allowed r block p) : narrowed r (ResourceName.normalise block) [p] = s := by
  have hnot : ¬ Allowed r (ResourceName.normalise block) p := mt allowed_normalise_iff.1 hp
  rw [narrowed, Registry.defaultState?_normalise, h]
  exact narrowBy_of_not_allowed hnot s

theorem narrowed_of_allowed (h : r.defaultState? block = some s) {p : BlockProperty}
    (hp : Allowed r block p) :
    narrowed r (ResourceName.normalise block) [p] = s.assign p.name p.value := by
  rw [narrowed, Registry.defaultState?_normalise, h]
  exact narrowBy_of_allowed (allowed_normalise_iff.2 hp) s

theorem narrowed_singleton (h : r.defaultState? block = some s) {name value : Text}
    {values : List Text} (hdeclared : (r.blockProperties block).get? name = some values) :
    narrowed r (ResourceName.normalise block) [⟨name, value⟩] =
      if value ∈ values then s.assign name value else s := by
  split
  case isTrue hmem => exact narrowed_of_allowed h ⟨values, hdeclared, hmem⟩
  case isFalse hnot =>
    refine narrowed_of_not_allowed h ?_
    rintro ⟨values', hvalues', hmem'⟩
    cases hdeclared.symm.trans hvalues'
    exact hnot hmem'

theorem accepts_iff_of_narrows {ps : List BlockProperty} (hknown : r.hasBlock block) (hne : ps ≠ [])
    (hraw : Narrows raw block ps) : Accepts r raw w pos ↔
      w.isLoaded pos.chunk ∧ w.blockAt pos = narrowed r (ResourceName.normalise block) ps := by
  rw [Accepts, compile_of_narrows hknown hne hraw]
  simp only [Except.ok.injEq, exists_eq_left']
  cases hloaded : w.isLoaded pos.chunk with
  | false => simp [allHold, hloaded]
  | true => simpa using (decides_state w pos hloaded _).eq_true_iff

/-- A block that is found has the value that is asked for, or it is in its default state if that
value is not allowed. -/
theorem compile_requested {name value : Text} {values : List Text} (hknown : r.hasBlock block)
    (hdeclared : (r.blockProperties block).get? name = some values)
    (hraw : Narrows raw block [⟨name, value⟩]) :
    ∃ s, r.defaultState? block = some s ∧ ∀ {w : World} {pos : BlockPos},
      (Accepts r raw w pos ↔ w.isLoaded pos.chunk ∧
        w.blockAt pos = if value ∈ values then s.assign name value else s) ∧
      (Accepts r raw w pos → (w.blockAt pos).block = ResourceName.normalise block ∧
        (value ∈ values → (w.blockAt pos).get? name = some value) ∧
        (value ∉ values → w.blockAt pos = s)) := by
  obtain ⟨s, hs⟩ := Registry.exists_defaultState? hknown
  rw [Registry.defaultState?_normalise] at hs
  have haccepts {w : World} {pos : BlockPos} : Accepts r raw w pos ↔ w.isLoaded pos.chunk ∧
      w.blockAt pos = if value ∈ values then s.assign name value else s := by
    rw [accepts_iff_of_narrows hknown (List.cons_ne_nil _ _) hraw, narrowed_singleton hs hdeclared]
  refine ⟨s, hs, fun {w pos} => ⟨haccepts, fun h => ?_⟩⟩
  obtain ⟨-, hstate⟩ := haccepts.1 h
  have hblock := Registry.block_of_defaultState? hs
  by_cases hmem : value ∈ values
  · rw [if_pos hmem] at hstate
    rw [hstate]
    refine ⟨hblock, fun _ => ?_, fun hnot => absurd hmem hnot⟩
    rw [BlockState.get?_assign, if_pos rfl]
  · rw [if_neg hmem] at hstate
    rw [hstate]
    exact ⟨hblock, fun h => absurd h hmem, fun _ => rfl⟩

def east : Text := "east"

def facings : List Text := ["north", east]

def furnaceWith (name value : Text) : Json :=
  .obj [("block", .str "furnace"), ("properties", .arr [entryOf name value])]

theorem narrows_furnaceWith (name value : Text) :
    Narrows (furnaceWith name value) "furnace" [⟨name, value⟩] :=
  ⟨_, rfl, rfl⟩

/-- A world with one furnace. -/
def furnaceFacing (direction : Text) : World where
  blocks := [(⟨0, 0, 0⟩, .of "furnace" [("facing", direction), ("lit", "false")])]

theorem compile_requested_east :
    furnaces.hasBlock "furnace" ∧
      (furnaces.blockProperties "furnace").get? "facing" = some facings ∧
      Narrows (furnaceWith "facing" east) "furnace" [⟨"facing", east⟩] ∧
      ∃ s, furnaces.defaultState? "furnace" = some s ∧ ∀ {w : World} {pos : BlockPos},
        (Accepts furnaces (furnaceWith "facing" east) w pos ↔ w.isLoaded pos.chunk ∧
          w.blockAt pos = if east ∈ facings then s.assign "facing" east else s) ∧
        (Accepts furnaces (furnaceWith "facing" east) w pos →
          (w.blockAt pos).block = ResourceName.normalise "furnace" ∧
          (east ∈ facings → (w.blockAt pos).get? "facing" = some east) ∧
          (east ∉ facings → w.blockAt pos = s)) :=
  ⟨rfl, rfl, narrows_furnaceWith _ _, compile_requested rfl rfl (narrows_furnaceWith _ _)⟩

/-- A furnace never faces up, so a furnace that is asked to is found as it is by default. -/
theorem requested_value_skipped :
    furnaces.hasBlock "furnace" ∧ ((furnaces.blockProperties "furnace").get? "facing").isSome ∧
      Narrows (furnaceWith "facing" "up") "furnace" [⟨"facing", "up"⟩] ∧
      Accepts furnaces (furnaceWith "facing" "up") (furnaceFacing "north") ⟨0, 0, 0⟩ ∧
      ((furnaceFacing "north").blockAt ⟨0, 0, 0⟩).get? "facing" ≠ some "up" :=
  ⟨rfl, rfl, narrows_furnaceWith _ _, ⟨_, rfl, by decide⟩, by decide⟩

theorem withContents_cons_eq_ok_iff {t : BlockTest} {plain : List BlockTest}
    {side : Option Direction} : withContents r (t :: plain) side d = .ok compiled ↔
      ∃ rest, withContents r plain side d = .ok rest ∧
        compiled = ⟨t :: rest.tests, rest.diagnostics⟩ := by
  by_cases hcontains : d.contains = .null
  · rw [withContents_of_null r _ side hcontains, withContents_of_null r _ side hcontains]
    simp [eq_comm]
  · simp only [withContents_eq_ok_iff hcontains]
    constructor
    · rintro ⟨hstuck, rfl⟩
      exact ⟨_, ⟨hstuck, rfl⟩, rfl⟩
    · rintro ⟨rest, ⟨hstuck, rfl⟩, rfl⟩
      exact ⟨hstuck, rfl⟩

theorem compileDescriptor_of_block {t : BlockTest} (hblock : d.block = some block)
    (ht : identity r (d.properties.getD []) block = .ok t) :
    compileDescriptor r d = .ok compiled ↔
      ∃ rest, compileDescriptor r { d with block := none } = .ok rest ∧
        compiled = ⟨t :: rest.tests, rest.diagnostics⟩ := by
  have hpart : Descriptor.onPart (identity r (d.properties.getD [])) d.block = .ok (some t) := by
    rw [hblock, Descriptor.onPart, ht]
    rfl
  simp only [compileDescriptor_eq_ok_iff, hpart]
  constructor
  · rintro ⟨_, side, energy, hidentity, hside, henergy, hcontents⟩
    obtain rfl := Except.ok.inj hidentity
    obtain ⟨rest, hrest, rfl⟩ := withContents_cons_eq_ok_iff.1 hcontents
    exact ⟨rest, ⟨none, side, energy, rfl, hside, henergy, hrest⟩, rfl⟩
  · rintro ⟨rest, ⟨_, side, energy, hidentity, hside, henergy, hrest⟩, rfl⟩
    obtain rfl := Except.ok.inj hidentity
    exact ⟨some t, side, energy, rfl, hside, henergy,
      withContents_cons_eq_ok_iff.2 ⟨rest, hrest, rfl⟩⟩

theorem allHold_cons_iff {t : BlockTest} {ts : List BlockTest} :
    allHold w pos (t :: ts) = .ok true ↔
      holds w pos t = .ok true ∧ allHold w pos ts = .ok true := by
  unfold allHold
  cases w.isLoaded pos.chunk with
  | false => simp
  | true =>
    rw [if_pos rfl, if_pos rfl, List.allM_cons]
    rcases holds w pos t with e | _ | _ <;> simp

theorem accepts_iff_of_block {t : BlockTest} (hraw : Describes raw d)
    (hblock : d.block = some block) (ht : identity r (d.properties.getD []) block = .ok t) :
    Accepts r raw w pos ↔ holds w pos t = .ok true ∧
      ∃ rest, compileDescriptor r { d with block := none } = .ok rest ∧
        allHold w pos rest.tests = .ok true := by
  simp only [Accepts, compile_eq_of_describes hraw, compileDescriptor_of_block hblock ht]
  constructor
  · rintro ⟨_, ⟨rest, hrest, rfl⟩, hholds⟩
    obtain ⟨ht, hts⟩ := allHold_cons_iff.1 hholds
    exact ⟨ht, rest, hrest, hts⟩
  · rintro ⟨ht, rest, hrest, hts⟩
    exact ⟨_, ⟨rest, hrest, rfl⟩, allHold_cons_iff.2 ⟨ht, hts⟩⟩

/-- An entry for a property that the block does not have may be left out if others remain. If none
does, what was accepted with it is what is accepted without it in the default state. -/
theorem compile_unknownName {earlier later : List BlockProperty} {p : BlockProperty}
    (hknown : r.hasBlock block) (hunknown : (r.blockProperties block).get? p.name = none)
    (hblock : d.block = some block) (hproperties : d.properties = some (earlier ++ p :: later))
    (hraw : Describes raw d)
    (hraw' : Describes raw' { d with properties := some (earlier ++ later) }) :
    (earlier ++ later ≠ [] → compile r raw' = compile r raw) ∧
      (earlier ++ later = [] → ∀ {w : World} {pos : BlockPos}, Accepts r raw w pos ↔
        Accepts r raw' w pos ∧ r.defaultState? block = some (w.blockAt pos)) := by
  have hp : ¬ Allowed r block p := by
    rintro ⟨values, hvalues, -⟩
    cases hunknown.symm.trans hvalues
  have hover : Overruled r (ResourceName.normalise block) p later :=
    fun hallowed => absurd (allowed_normalise_iff.1 hallowed) hp
  constructor
  · intro hrest
    have hempty : (earlier ++ later).isEmpty = false := List.isEmpty_eq_false_iff.2 hrest
    have hempty' : (earlier ++ p :: later).isEmpty = false :=
      List.isEmpty_eq_false_iff.2 (List.append_ne_nil_of_right_ne_nil _ (List.cons_ne_nil _ _))
    have hidentity : identity r (earlier ++ later) block =
        identity r (earlier ++ p :: later) block := by
      rw [identity_of_hasBlock hknown, identity_of_hasBlock hknown, hempty, hempty',
        narrowed_of_overruled hover]
    rw [compile_eq_of_describes hraw, compile_eq_of_describes hraw', compileDescriptor,
      compileDescriptor, hblock, hproperties]
    simp only [Descriptor.onPart, Option.getD_some, hidentity]
    rfl
  · intro hnone w pos
    obtain ⟨rfl, rfl⟩ := List.append_eq_nil_iff.1 hnone
    obtain ⟨s, hs⟩ := Registry.exists_defaultState? hknown
    rw [Registry.defaultState?_normalise] at hs
    have hstate : identity r (d.properties.getD []) block = .ok (.state s) := by
      rw [identity_of_hasBlock hknown, hproperties, List.nil_append, Option.getD_some,
        narrowed_of_not_allowed hs hp]
      rfl
    have hname : identity r [] block = .ok (.block (ResourceName.normalise block)) :=
      identity_of_hasBlock hknown []
    rw [accepts_iff_of_block hraw hblock hstate, accepts_iff_of_block hraw' hblock hname, hs]
    simp only [holds, Except.ok.injEq, decide_eq_true_eq, Option.some.injEq]
    constructor
    · rintro ⟨rfl, hrest⟩
      exact ⟨⟨Registry.block_of_defaultState? hs, hrest⟩, rfl⟩
    · rintro ⟨⟨-, hrest⟩, rfl⟩
      exact ⟨rfl, hrest⟩

/-- A furnace of the default namespace, described by entries for its properties. -/
def furnaceOf (entries : List Json) : Json :=
  .obj [("block", .str "furnace"), ("properties", .arr entries), ("mod", .str "minecraft")]

def redFurnace : BlockDescriptor where
  block := some "furnace"
  properties := some ([⟨"facing", east⟩] ++ ⟨"color", "red"⟩ :: [])
  mod := some "minecraft"
  energy := .null
  side := none
  contains := .null

theorem compile_unknownName_red :
    furnaces.hasBlock "furnace" ∧ (furnaces.blockProperties "furnace").get? "color" = none ∧
      Describes (furnaceOf [entryOf "facing" east, entryOf "color" "red"]) redFurnace ∧
      Describes (furnaceOf [entryOf "facing" east])
        { redFurnace with properties := some ([⟨"facing", east⟩] ++ []) } ∧
      (([⟨"facing", east⟩] ++ [] : List BlockProperty) ≠ [] →
        compile furnaces (furnaceOf [entryOf "facing" east]) =
          compile furnaces (furnaceOf [entryOf "facing" east, entryOf "color" "red"])) ∧
      (([⟨"facing", east⟩] ++ [] : List BlockProperty) = [] → ∀ {w : World} {pos : BlockPos},
        Accepts furnaces (furnaceOf [entryOf "facing" east, entryOf "color" "red"]) w pos ↔
          Accepts furnaces (furnaceOf [entryOf "facing" east]) w pos ∧
            furnaces.defaultState? "furnace" = some (w.blockAt pos)) :=
  have h : Describes (furnaceOf [entryOf "facing" east, entryOf "color" "red"]) redFurnace :=
    ⟨_, rfl, rfl⟩
  have h' : Describes (furnaceOf [entryOf "facing" east])
      { redFurnace with properties := some ([⟨"facing", east⟩] ++ []) } := ⟨_, rfl, rfl⟩
  ⟨rfl, rfl, h, h', compile_unknownName (p := ⟨"color", "red"⟩) rfl rfl rfl rfl h h'⟩

/-- A color is not known of furnaces, and yet it is not ignored: with it a furnace must be in its
default state. -/
theorem unknownName_narrows :
    furnaces.hasBlock "furnace" ∧ (furnaces.blockProperties "furnace").get? "color" = none ∧
      Narrows (furnaceWith "color" "red") "furnace" [⟨"color", "red"⟩] ∧
      Narrows (.obj [("block", .str "furnace"), ("properties", .arr [])]) "furnace" [] ∧
      ¬ Accepts furnaces (furnaceWith "color" "red") (furnaceFacing "east") ⟨0, 0, 0⟩ ∧
      Accepts furnaces (.obj [("block", .str "furnace"), ("properties", .arr [])])
        (furnaceFacing "east") ⟨0, 0, 0⟩ := by
  refine ⟨rfl, rfl, narrows_furnaceWith _ _, ⟨_, rfl, rfl⟩, ?_, ⟨_, rfl, by decide⟩⟩
  rw [accepts_iff_of_narrows rfl (List.cons_ne_nil _ _) (narrows_furnaceWith _ _)]
  decide

end BlockTest
end RuleGate
