import RuleGate.Proofs.Descriptor.Contents
import RuleGate.Proofs.World.BlockState

/-!
# Blocks with named properties

The entries for the properties of a block are gone through one by one, and each that asks for an
allowed value writes it. What they come to is one state in the order of its properties
(`BlockTest.eq_narrowed_iff`): each property has the value of the last entry for it that is allowed,
or else its default. So the order of entries for different properties does not matter, and neither
does an entry that has no say (`BlockTest.narrowed_of_overruled`).
-/

namespace RuleGate.BlockTest

/-- The value of the last entry for a property that asks for one of its values. -/
def lastAllowed? (ps : List BlockProperty) (name : Text) (values : List Text) : Option Text :=
  (ps.filter fun p => p.name = name ∧ p.value ∈ values).getLast?.map BlockProperty.value

theorem lastAllowed?_append (ps qs : List BlockProperty) (name : Text) (values : List Text) :
    lastAllowed? (ps ++ qs) name values =
      (lastAllowed? qs name values).or (lastAllowed? ps name values) := by
  unfold lastAllowed?
  rw [List.filter_append, List.getLast?_append, Option.map_or]

theorem lastAllowed?_singleton (p : BlockProperty) (name : Text) (values : List Text) :
    lastAllowed? [p] name values =
      if p.name = name ∧ p.value ∈ values then some p.value else none := by
  unfold lastAllowed?
  by_cases h : p.name = name ∧ p.value ∈ values <;> simp [h]

theorem lastAllowed?_isSome {ps : List BlockProperty} {name : Text} {values : List Text}
    (h : ∃ p ∈ ps, p.name = name ∧ p.value ∈ values) : (lastAllowed? ps name values).isSome := by
  obtain ⟨p, hp, hallowed⟩ := h
  unfold lastAllowed?
  rw [Option.isSome_map, Option.isSome_iff_ne_none, ne_eq, List.getLast?_eq_none_iff]
  exact List.ne_nil_of_mem (List.mem_filter.2 ⟨hp, decide_eq_true hallowed⟩)

variable (r : Registry) (block : Text)

/-- The value of a property among entries that ask for some: the last that is allowed, or else the
first of all that are declared. -/
def wanted? (ps : List BlockProperty) (name : Text) : Option Text :=
  ((r.blockProperties block).get? name).bind fun values =>
    (lastAllowed? ps name values).or values.head?

def Allowed (p : BlockProperty) : Prop :=
  ∃ values, (r.blockProperties block).get? p.name = some values ∧ p.value ∈ values

/-- An entry that writes nothing, or over which a later one writes. -/
def Overruled (p : BlockProperty) (later : List BlockProperty) : Prop :=
  Allowed r block p → ∃ q ∈ later, q.name = p.name ∧ Allowed r block q

variable {r block} {s : BlockState}

theorem narrowBy_of_allowed {p : BlockProperty} (h : Allowed r block p) (s : BlockState) :
    narrowBy r block s p = s.assign p.name p.value := by
  obtain ⟨values, hvalues, hmem⟩ := h
  simp only [narrowBy, hvalues, if_pos hmem]

theorem narrowBy_of_not_allowed {p : BlockProperty} (h : ¬ Allowed r block p) (s : BlockState) :
    narrowBy r block s p = s := by
  unfold narrowBy
  split
  case h_1 values hvalues => exact if_neg fun hmem => h ⟨values, hvalues, hmem⟩
  case h_2 => rfl

theorem ordered_foldl_narrowBy (h : s.Ordered) (ps : List BlockProperty) :
    (ps.foldl (narrowBy r block) s).Ordered := by
  induction ps generalizing s with
  | nil => exact h
  | cons p rest ih =>
    rw [List.foldl_cons]
    by_cases hp : Allowed r block p
    · rw [narrowBy_of_allowed hp]
      exact ih (h.assign p.name p.value)
    · rw [narrowBy_of_not_allowed hp]
      exact ih h

theorem block_foldl_narrowBy (ps : List BlockProperty) :
    (ps.foldl (narrowBy r block) s).block = s.block := by
  induction ps generalizing s with
  | nil => rfl
  | cons p rest ih =>
    rw [List.foldl_cons, ih]
    by_cases hp : Allowed r block p
    · rw [narrowBy_of_allowed hp]
      rfl
    · rw [narrowBy_of_not_allowed hp]

theorem get?_foldl_narrowBy (ps : List BlockProperty) (name : Text) :
    (ps.foldl (narrowBy r block) s).get? name =
      (((r.blockProperties block).get? name).bind (lastAllowed? ps name)).or (s.get? name) := by
  induction ps using List.reverseRecOn with
  | nil => cases (r.blockProperties block).get? name <;> rfl
  | append_singleton ps p ih =>
    rw [List.foldl_append, List.foldl_cons, List.foldl_nil]
    by_cases hp : Allowed r block p
    · rw [narrowBy_of_allowed hp, BlockState.get?_assign, ih]
      obtain ⟨values, hvalues, hmem⟩ := hp
      by_cases hname : p.name = name
      · subst hname
        simp [hvalues, lastAllowed?_append, lastAllowed?_singleton, hmem]
      · have hother : lastAllowed? (ps ++ [p]) name = lastAllowed? ps name := by
          funext values
          simp [lastAllowed?_append, lastAllowed?_singleton, hname]
        rw [if_neg hname, hother]
    · rw [narrowBy_of_not_allowed hp, ih]
      cases hvalues : (r.blockProperties block).get? name with
      | none => rfl
      | some values =>
        have hne : ¬ (p.name = name ∧ p.value ∈ values) := by
          rintro ⟨rfl, hmem⟩
          exact hp ⟨values, hvalues, hmem⟩
        simp [lastAllowed?_append, lastAllowed?_singleton, hne]

theorem ordered_narrowed (r : Registry) (block : Text) (ps : List BlockProperty) :
    (narrowed r block ps).Ordered := by
  refine ordered_foldl_narrowBy ?_ ps
  cases hs : r.defaultState? block with
  | none => exact .nil
  | some s => exact Registry.ordered_of_defaultState? hs

theorem narrowed_congr {ps qs : List BlockProperty}
    (h : ∀ name values, (r.blockProperties block).get? name = some values →
      lastAllowed? ps name values = lastAllowed? qs name values) :
    narrowed r block ps = narrowed r block qs := by
  refine (BlockState.eq_iff_of_ordered (ordered_narrowed r block qs)).2
    ⟨?_, ordered_narrowed r block ps, fun name => ?_⟩
  · exact (block_foldl_narrowBy ps).trans (block_foldl_narrowBy qs).symm
  · rw [narrowed, narrowed, get?_foldl_narrowBy, get?_foldl_narrowBy]
    cases hvalues : (r.blockProperties block).get? name with
    | none => rfl
    | some values => rw [Option.bind_some, Option.bind_some, h name values hvalues]

theorem narrowed_of_overruled {p : BlockProperty} {later : List BlockProperty}
    (h : Overruled r block p later) (earlier : List BlockProperty) :
    narrowed r block (earlier ++ p :: later) = narrowed r block (earlier ++ later) := by
  refine narrowed_congr fun name values hvalues => ?_
  rw [← List.singleton_append, lastAllowed?_append, lastAllowed?_append, lastAllowed?_append,
    lastAllowed?_singleton, Option.or_assoc]
  split
  case isFalse => rfl
  case isTrue hp =>
    obtain ⟨rfl, hmem⟩ := hp
    obtain ⟨q, hq, hname, values', hvalues', hmem'⟩ := h ⟨values, hvalues, hmem⟩
    rw [hname, hvalues] at hvalues'
    cases hvalues'
    obtain ⟨value, hvalue⟩ := Option.isSome_iff_exists.1 (lastAllowed?_isSome ⟨q, hq, hname, hmem'⟩)
    rw [hvalue, Option.some_or, Option.some_or]

theorem narrowed_swap {p q : BlockProperty} (h : p.name ≠ q.name)
    (earlier later : List BlockProperty) :
    narrowed r block (earlier ++ p :: q :: later) =
      narrowed r block (earlier ++ q :: p :: later) := by
  refine narrowed_congr fun name values _ => ?_
  have hpair : lastAllowed? [p, q] name values = lastAllowed? [q, p] name values := by
    rw [← List.singleton_append, ← List.singleton_append (l := [p]), lastAllowed?_append,
      lastAllowed?_append, lastAllowed?_singleton, lastAllowed?_singleton]
    by_cases hp : p.name = name
    · have hq : q.name ≠ name := fun hq => h (hp.trans hq.symm)
      simp [hq]
    · simp [hp]
  have happend (p q : BlockProperty) : lastAllowed? (earlier ++ p :: q :: later) name values =
      ((lastAllowed? later name values).or (lastAllowed? [p, q] name values)).or
        (lastAllowed? earlier name values) := by
    rw [← lastAllowed?_append, ← lastAllowed?_append]
    rfl
  rw [happend, happend, hpair]

/-- A state of the block that has the values that are asked for and no others. -/
structure Narrowed (r : Registry) (block : Text) (ps : List BlockProperty) (s : BlockState) :
    Prop where
  isOf : s.block = ResourceName.normalise block
  ordered : s.Ordered
  get?_eq : ∀ name, s.get? name = wanted? r block ps name

theorem eq_narrowed_iff (hr : r.Regular) (hknown : r.hasBlock block) {ps : List BlockProperty} :
    s = narrowed r (ResourceName.normalise block) ps ↔ Narrowed r block ps s := by
  obtain ⟨d, hd⟩ := Registry.exists_defaultState? hknown
  have hblock : d.block = ResourceName.normalise block := by
    rw [Registry.block_of_defaultState? hd, ResourceName.normalise_normalise]
  have hget (name : Text) :
      (narrowed r (ResourceName.normalise block) ps).get? name = wanted? r block ps name := by
    rw [narrowed, hd, Option.getD_some, get?_foldl_narrowBy, Registry.get?_of_defaultState? hr hd,
      Registry.blockProperties_normalise, wanted?]
    cases (r.blockProperties block).get? name <;> rfl
  have hnarrowed : (narrowed r (ResourceName.normalise block) ps).block =
      ResourceName.normalise block := by
    rw [narrowed, hd, Option.getD_some, block_foldl_narrowBy, hblock]
  rw [BlockState.eq_iff_of_ordered (ordered_narrowed _ _ ps), hnarrowed]
  simp only [hget]
  exact ⟨fun h => ⟨h.1, h.2.1, h.2.2⟩, fun h => ⟨h.isOf, h.ordered, h.get?_eq⟩⟩

variable {raw raw' : Json} {d : BlockDescriptor} {ps : List BlockProperty} {compiled : Compiled}

/-- A descriptor that is decoded to an object and read as this one. -/
def Describes (raw : Json) (d : BlockDescriptor) : Prop :=
  ∃ object, Descriptor.decode raw = .ok (.obj object) ∧
    BlockDescriptor.form.read object = .valid d

/-- A description by a name and some properties and nothing else. -/
def Narrows (raw : Json) (block : Text) (ps : List BlockProperty) : Prop :=
  Describes raw ⟨some block, some ps, none, .null, none, .null⟩

theorem compile_eq_of_describes (h : Describes raw d) : compile r raw = compileDescriptor r d := by
  obtain ⟨object, hraw, hread⟩ := h
  rw [compile, hraw]
  change compileObject r object = _
  rw [compileObject_eq, Descriptor.ofObject, hread]
  rfl

theorem identity_of_hasBlock (hknown : r.hasBlock block) (ps : List BlockProperty) :
    identity r ps block = .ok (if ps.isEmpty then .block (ResourceName.normalise block)
      else .state (narrowed r (ResourceName.normalise block) ps)) := by
  rw [identity, knownBlock, if_pos hknown]
  rfl

theorem compile_of_narrows (hknown : r.hasBlock block) (hne : ps ≠ []) (h : Narrows raw block ps) :
    compile r raw = .ok ⟨[.state (narrowed r (ResourceName.normalise block) ps)], []⟩ := by
  have hempty : ps.isEmpty = false := List.isEmpty_eq_false_iff.2 hne
  rw [compile_eq_of_describes h, compileDescriptor_eq_ok_iff]
  refine ⟨some (.state (narrowed r (ResourceName.normalise block) ps)), none, none, ?_, rfl, rfl,
    rfl⟩
  simp only [Descriptor.onPart, Option.getD_some, identity_of_hasBlock hknown, hempty]
  rfl

/-- Of entries for one property the last that is allowed counts, repeated or not, and entries for
different properties do not meet. -/
structure LastCounts (r : Registry) (raw : Json) (block : Text) (ps : List BlockProperty) :
    Prop where
  repeated : ∀ {earlier later : List BlockProperty} {p : BlockProperty} {raw' : Json},
    ps = earlier ++ p :: later → p ∈ later → Narrows raw' block (earlier ++ later) →
      compile r raw' = compile r raw
  exchanged : ∀ {earlier later : List BlockProperty} {p q : BlockProperty} {raw' : Json},
    ps = earlier ++ p :: q :: later → p.name ≠ q.name →
      Narrows raw' block (earlier ++ q :: p :: later) → compile r raw' = compile r raw
  last : ∀ {earlier later : List BlockProperty} {p q : BlockProperty} {raw' : Json},
    ps = earlier ++ p :: later → q ∈ later → q.name = p.name → Allowed r block q →
      Narrows raw' block (earlier ++ later) → compile r raw' = compile r raw

theorem allowed_normalise_iff {p : BlockProperty} :
    Allowed r (ResourceName.normalise block) p ↔ Allowed r block p := by
  rw [Allowed, Registry.blockProperties_normalise]
  rfl

theorem compile_congr_of_narrows (hknown : r.hasBlock block) {ps qs : List BlockProperty}
    (hps : ps ≠ []) (hqs : qs ≠ []) (h : Narrows raw block ps) (h' : Narrows raw' block qs)
    (hsame : narrowed r (ResourceName.normalise block) ps =
      narrowed r (ResourceName.normalise block) qs) : compile r raw' = compile r raw := by
  rw [compile_of_narrows hknown hps h, compile_of_narrows hknown hqs h', hsame]

theorem lastCounts (hknown : r.hasBlock block) (hne : ps ≠ []) (h : Narrows raw block ps) :
    LastCounts r raw block ps := by
  have hdrop {earlier later : List BlockProperty} {p q : BlockProperty} {raw' : Json}
      (hps : ps = earlier ++ p :: later) (hq : q ∈ later)
      (hover : Overruled r (ResourceName.normalise block) p later)
      (h' : Narrows raw' block (earlier ++ later)) : compile r raw' = compile r raw := by
    have hne' : earlier ++ later ≠ [] :=
      List.append_ne_nil_of_right_ne_nil _ (List.ne_nil_of_mem hq)
    refine compile_congr_of_narrows hknown hne hne' h h' ?_
    rw [hps, narrowed_of_overruled hover]
  refine ⟨fun hps hp => ?_, fun hps hname h' => ?_, fun hps hq hname hallowed => ?_⟩
  · exact hdrop hps hp fun hallowed => ⟨_, hp, rfl, hallowed⟩
  · refine compile_congr_of_narrows hknown hne (by simp) h h' ?_
    rw [hps, narrowed_swap hname]
  · exact hdrop hps hq fun _ => ⟨_, hq, hname, allowed_normalise_iff.2 hallowed⟩

theorem decides_state (w : World) (pos : BlockPos) (hloaded : w.isLoaded pos.chunk)
    (s : BlockState) :
    Except.Decides (allHold w pos [.state s]) (w.blockAt pos = s) := by
  rw [allHold_singleton hloaded]
  exact ⟨_, rfl, decide_eq_true_iff⟩

/-- Entries for the properties of a block come to one state that a block must be in. -/
theorem compile_narrowing {items : List Text} {blocks : List (Text × Table Text (List Text))}
    {biomeTypes : List (Text × List Text)} (hblocks : ∀ b ∈ blocks, (b.2.map Prod.fst).Nodup)
    (hknown : (Registry.build items blocks biomeTypes).hasBlock block) (hne : ps ≠ [])
    (hraw : Narrows raw block ps) :
    ∃ compiled, compile (.build items blocks biomeTypes) raw = .ok compiled ∧
      (∀ {w : World} {pos : BlockPos}, w.isLoaded pos.chunk →
        Except.Decides (allHold w pos compiled.tests)
          (Narrowed (.build items blocks biomeTypes) block ps (w.blockAt pos))) ∧
      LastCounts (.build items blocks biomeTypes) raw block ps := by
  refine ⟨_, compile_of_narrows hknown hne hraw, fun {w pos} hloaded => ?_,
    lastCounts hknown hne hraw⟩
  exact (decides_state w pos hloaded _).congr
    (eq_narrowed_iff (Registry.regular_build hblocks) hknown)

/-- Furnaces stand in one of two directions and are lit or not. -/
def furnaceTables : List (Text × Table Text (List Text)) :=
  [("furnace", [("facing", ["north", "east"]), ("lit", ["false", "true"])])]

def furnaces : Registry :=
  .build [] furnaceTables []

def entryOf (name value : Text) : Json :=
  .obj [("name", .str name), ("value", .str value)]

/-- A furnace that is asked to be lit, red, and first up and then east. -/
def eastFurnace : Json :=
  .obj [("block", .str "furnace"), ("properties", .arr [entryOf "facing" "up", entryOf "lit" "true",
    entryOf "color" "red", entryOf "facing" "east"])]

def eastEntries : List BlockProperty :=
  [⟨"facing", "up"⟩, ⟨"lit", "true"⟩, ⟨"color", "red"⟩, ⟨"facing", "east"⟩]

theorem compile_narrowing_eastFurnace :
    (∀ b ∈ furnaceTables, (b.2.map Prod.fst).Nodup) ∧ furnaces.hasBlock "furnace" ∧
      eastEntries ≠ [] ∧ Narrows eastFurnace "furnace" eastEntries ∧
      ∃ compiled, compile furnaces eastFurnace = .ok compiled ∧
        (∀ {w : World} {pos : BlockPos}, w.isLoaded pos.chunk →
          Except.Decides (allHold w pos compiled.tests)
            (Narrowed furnaces "furnace" eastEntries (w.blockAt pos))) ∧
        LastCounts furnaces eastFurnace "furnace" eastEntries := by
  have hblocks : ∀ b ∈ furnaceTables, (b.2.map Prod.fst).Nodup := by decide
  have hne : eastEntries ≠ [] := List.cons_ne_nil _ _
  have hraw : Narrows eastFurnace "furnace" eastEntries := ⟨_, rfl, rfl⟩
  exact ⟨hblocks, rfl, hne, hraw, compile_narrowing hblocks rfl hne hraw⟩

example : wanted? furnaces "furnace" eastEntries "facing" = some "east" := by decide

end RuleGate.BlockTest
