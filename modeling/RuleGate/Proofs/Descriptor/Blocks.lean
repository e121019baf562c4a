import RuleGate.Proofs.Descriptor.Entries
import RuleGate.Proofs.World.Registry
import RuleGate.Rule.Compile

/-!
# Blocks on which compiling is stuck

A block is read field by field: its name, its side, its energy and then what it contains. Compiling
is stuck on the faulty ones (`BlockTest.stuck_compile_iff`), and on a list of blocks exactly when a
faulty one is reached: all before it compile (`Check.blocksOf_eq_error_iff`). An item that fails
inside a block is left out and there is a warning for it (`Check.accounted_of_blocksOf`).
-/

namespace RuleGate

open Failure

theorem Offset.stuck_compile_iff {raw : Json} : Stuck (compile raw) ↔ Descriptor.Faulty raw := by
  unfold compile
  rw [stuck_bind, Descriptor.stuck_decode_iff]
  refine or_iff_left ?_
  rintro ⟨v, _, h⟩
  cases v with
  | obj fields => exact Descriptor.not_stuck_ofObject _ _ _ h
  | _ => exact not_stuck_compile _ h

namespace BlockTest

variable (r : Registry)

def Named (d : BlockDescriptor) : Prop :=
  (∀ name, d.block = some name → r.hasBlock name) ∧
    ∀ name, d.side = some name → (RuleGate.Named.ofLooseName? name : Option Direction).isSome

def contentsEntries (d : BlockDescriptor) : List Json :=
  ((contentsOf? d.contains).getD []).flatMap ItemTest.entriesOf

def FaultyObject (object : Fields) : Prop :=
  ∃ d, BlockDescriptor.form.read object = .valid d ∧ Named r d ∧
    (Reaches Expression.Reads Expression.Faulty d.energy.given ∨
      (∀ v ∈ d.energy.given, Expression.Reads v) ∧
        ∃ entry ∈ contentsEntries d, ItemTest.Faulty r entry)

/-- A block on which compiling is stuck. -/
inductive Faulty (raw : Json) : Prop
  | text (h : Descriptor.Faulty raw)
  | object (fields : Fields) (hd : Descriptor.decode raw = .ok (.obj fields))
      (h : FaultyObject r fields)

theorem identity_ok_iff {properties : List BlockProperty} {name : Text} :
    (∃ t, identity r properties name = .ok t) ↔ r.hasBlock name := by
  unfold identity knownBlock
  split <;> simp_all

theorem not_stuck_identity (properties : List BlockProperty) (name : Text) :
    ¬ Stuck (identity r properties name) := by
  unfold identity knownBlock
  split <;> simp

theorem sideOf_ok_iff {name : Text} :
    (∃ d, sideOf name = .ok d) ↔ (RuleGate.Named.ofLooseName? name : Option Direction).isSome := by
  unfold sideOf
  split <;> simp_all

theorem not_stuck_sideOf (name : Text) : ¬ Stuck (sideOf name) := by
  unfold sideOf
  split <;> simp

/-- The last part of a block, in which it is told what to contain. -/
def withContents (plain : List BlockTest) (side : Option Direction) (d : BlockDescriptor) :
    Except Failure Compiled :=
  match contentsOf? d.contains with
  | none => return ⟨plain, []⟩
  | some wanted => do
    let batch ← Failure.ofFault (ItemTest.compileAll r wanted)
    return ⟨plain ++ [contents batch.tests side], batch.diagnostics⟩

theorem stuck_withContents_iff {plain : List BlockTest} {side : Option Direction}
    {d : BlockDescriptor} : Stuck (withContents r plain side d) ↔
      ∃ entry ∈ contentsEntries d, ItemTest.Faulty r entry := by
  unfold withContents contentsEntries
  cases contentsOf? d.contains with
  | none => simp
  | some wanted =>
    simp only [stuck_bind, stuck_ofFault, ItemTest.compileAll_eq,
      ItemTest.compileEntries_eq_error_iff, ItemTest.stuck_compile_iff, Option.getD_some]
    refine or_iff_left ?_
    rintro ⟨batch, _, h⟩
    exact not_stuck_ok _ h

theorem named_iff {d : BlockDescriptor} : Named r d ↔
    (∃ t, Descriptor.onPart (identity r (d.properties.getD [])) d.block = .ok t) ∧
      ∃ side, Descriptor.onPart sideOf d.side = .ok side := by
  simp only [Named, Descriptor.onPart_ok_iff, identity_ok_iff, sideOf_ok_iff]

/-- What is left to do once the object is read. -/
def compileDescriptor (d : BlockDescriptor) : Except Failure Compiled := do
  let identity ← Descriptor.onPart (identity r (d.properties.getD [])) d.block
  let side ← Descriptor.onPart sideOf d.side
  let energy ← Expression.optional d.energy
  withContents r (identity.toList ++ (d.mod.map mod).toList ++
    (energy.map fun e => BlockTest.energy e side).toList) side d

theorem compileObject_eq (object : Fields) : compileObject r object =
    Descriptor.ofObject .block BlockDescriptor.form object >>= compileDescriptor r := rfl

theorem stuck_compileObject_iff {object : Fields} :
    Stuck (compileObject r object) ↔ FaultyObject r object := by
  simp only [compileObject_eq, compileDescriptor, stuck_bind, Descriptor.not_stuck_ofObject,
    false_or, Descriptor.ofObject_ok_iff, Descriptor.stuck_onPart, not_stuck_identity,
    not_stuck_sideOf, and_false, exists_false, stuck_withContents_iff, FaultyObject, named_iff,
    ← (Expression.follows_optional _).stuck_iff, ← (Expression.follows_optional _).ok_iff]
  apply exists_congr
  intro d
  apply and_congr_right
  intro _
  constructor
  · rintro ⟨identity, hidentity, side, hside, henergy | ⟨energy, henergy, hcontents⟩⟩
    · exact ⟨⟨⟨identity, hidentity⟩, side, hside⟩, .inl henergy⟩
    · exact ⟨⟨⟨identity, hidentity⟩, side, hside⟩, .inr ⟨⟨energy, henergy⟩, hcontents⟩⟩
  · rintro ⟨⟨⟨identity, hidentity⟩, side, hside⟩, henergy | ⟨⟨energy, henergy⟩, hcontents⟩⟩
    · exact ⟨identity, hidentity, side, hside, .inl henergy⟩
    · exact ⟨identity, hidentity, side, hside, .inr ⟨energy, henergy, hcontents⟩⟩

theorem stuck_compile_iff {raw : Json} : Stuck (compile r raw) ↔ Faulty r raw := by
  unfold compile
  rw [stuck_bind, Descriptor.stuck_decode_iff]
  constructor
  · rintro (h | ⟨v, hv, h⟩)
    · exact .text h
    · cases v with
      | obj object => exact .object object hv ((stuck_compileObject_iff r).1 h)
      | str name =>
        rw [stuck_map] at h
        unfold knownBlock at h
        split at h
        · exact absurd h (not_stuck_ok _)
        · exact absurd h (not_stuck_compile _)
      | _ => exact absurd h (not_stuck_compile _)
  · intro h
    cases h with
    | text h => exact .inl h
    | object fields hd h => exact .inr ⟨_, hd, (stuck_compileObject_iff r).2 h⟩

/-- A block that compiles. Its state narrows one that the registry has, and each of its items is
tested for or has a warning in the report. -/
structure Accounted (reported : List Diagnostic) (raw : Json) : Prop where
  compiles : ∃ compiled, compile r raw = .ok compiled
  state : ∀ object d name, Descriptor.decode raw = .ok (.obj object) →
    BlockDescriptor.form.read object = .valid d → d.block = some name →
      ∃ s, r.defaultState? (ResourceName.normalise name) = some s
  contents : ∀ object d, Descriptor.decode raw = .ok (.obj object) →
    BlockDescriptor.form.read object = .valid d →
      ∀ entry ∈ contentsEntries d, ItemTest.Accounted r reported entry

variable {r} {raw : Json} {object : Fields} {d : BlockDescriptor} {compiled : Compiled}

theorem Accounted.mono {reported more : List Diagnostic} (h : Accounted r reported raw)
    (hsub : reported ⊆ more) : Accounted r more raw where
  compiles := h.compiles
  state := h.state
  contents object d hraw hd entry hentry := (h.contents object d hraw hd entry hentry).mono hsub

theorem withContents_of_null (r : Registry) (plain : List BlockTest) (side : Option Direction)
    (h : d.contains = .null) : withContents r plain side d = .ok ⟨plain, []⟩ := by
  rw [withContents, h]
  rfl

theorem withContents_eq_ok_iff {plain : List BlockTest} {side : Option Direction}
    (hcontains : d.contains ≠ .null) : withContents r plain side d = .ok compiled ↔
      (∀ entry ∈ contentsEntries d, ¬ Stuck (ItemTest.compile r entry)) ∧
        compiled =
          ⟨plain ++ [contents ((contentsEntries d).filterMap (ItemTest.testOf? r)) side],
            (contentsEntries d).filterMap (ItemTest.warningOf? r)⟩ := by
  obtain ⟨wanted, hwanted⟩ : ∃ wanted, contentsOf? d.contains = some wanted := by
    cases hc : d.contains with
    | null => exact absurd hc hcontains
    | _ => exact ⟨_, rfl⟩
  have hentries : contentsEntries d = wanted.flatMap ItemTest.entriesOf := by
    rw [contentsEntries, hwanted]
    rfl
  simp only [withContents, hwanted, hentries, Except.bind_eq_ok_iff, Failure.ofFault_eq_ok_iff,
    ItemTest.compileAll_eq, ItemTest.compileEntries_eq_ok_iff]
  constructor
  · rintro ⟨_, ⟨hstuck, rfl⟩, hout⟩
    exact ⟨hstuck, (Except.ok.inj hout).symm⟩
  · rintro ⟨hstuck, rfl⟩
    exact ⟨_, ⟨hstuck, rfl⟩, rfl⟩

theorem compileObject_eq_ok_iff : compileObject r object = .ok compiled ↔
    ∃ d, BlockDescriptor.form.read object = .valid d ∧ compileDescriptor r d = .ok compiled := by
  simp only [compileObject_eq, Except.bind_eq_ok_iff, Descriptor.ofObject_ok_iff]

theorem compileDescriptor_eq_ok_iff : compileDescriptor r d = .ok compiled ↔
    ∃ identity side energy,
      Descriptor.onPart (BlockTest.identity r (d.properties.getD [])) d.block = .ok identity ∧
      Descriptor.onPart sideOf d.side = .ok side ∧ Expression.optional d.energy = .ok energy ∧
      withContents r (identity.toList ++ (d.mod.map mod).toList ++
        (energy.map fun e => BlockTest.energy e side).toList) side d = .ok compiled := by
  simp only [compileDescriptor, Except.bind_eq_ok_iff]
  constructor
  · rintro ⟨identity, hidentity, side, hside, energy, henergy, hcontents⟩
    exact ⟨identity, side, energy, hidentity, hside, henergy, hcontents⟩
  · rintro ⟨identity, side, energy, hidentity, hside, henergy, hcontents⟩
    exact ⟨identity, hidentity, side, hside, energy, henergy, hcontents⟩

theorem compileObject_eq_ok (h : compile r raw = .ok compiled)
    (hraw : Descriptor.decode raw = .ok (.obj object)) : compileObject r object = .ok compiled := by
  rw [← h, compile, hraw]
  rfl

theorem compileDescriptor_eq_ok (h : compile r raw = .ok compiled)
    (hraw : Descriptor.decode raw = .ok (.obj object))
    (hd : BlockDescriptor.form.read object = .valid d) :
    compileDescriptor r d = .ok compiled := by
  obtain ⟨d', hd', hcompile⟩ := compileObject_eq_ok_iff.1 (compileObject_eq_ok h hraw)
  cases hd.symm.trans hd'
  exact hcompile

theorem named_of_compile (h : compile r raw = .ok compiled)
    (hraw : Descriptor.decode raw = .ok (.obj object))
    (hd : BlockDescriptor.form.read object = .valid d) : Named r d := by
  obtain ⟨identity, side, _, hidentity, hside, _⟩ :=
    compileDescriptor_eq_ok_iff.1 (compileDescriptor_eq_ok h hraw hd)
  exact (named_iff r).2 ⟨⟨identity, hidentity⟩, side, hside⟩

theorem contents_accounted (h : compile r raw = .ok compiled)
    (hraw : Descriptor.decode raw = .ok (.obj object))
    (hd : BlockDescriptor.form.read object = .valid d) :
    ∀ entry ∈ contentsEntries d, ItemTest.Accounted r compiled.diagnostics entry := by
  intro entry hentry
  have hcontains : d.contains ≠ .null := by
    intro hnull
    simp [contentsEntries, hnull, contentsOf?] at hentry
  obtain ⟨_, side, _, _, _, _, hcontents⟩ :=
    compileDescriptor_eq_ok_iff.1 (compileDescriptor_eq_ok h hraw hd)
  obtain ⟨hstuck, rfl⟩ := (withContents_eq_ok_iff hcontains).1 hcontents
  exact ItemTest.accounted_of_not_stuck r hentry (hstuck entry hentry)

theorem accounted_of_compile {reported : List Diagnostic} (h : compile r raw = .ok compiled)
    (hsub : compiled.diagnostics ⊆ reported) : Accounted r reported raw where
  compiles := ⟨compiled, h⟩
  state _ _ _ hraw hd hname :=
    Registry.exists_defaultState? ((named_of_compile h hraw hd).1 _ hname)
  contents _ _ hraw hd _ hentry := (contents_accounted h hraw hd _ hentry).mono hsub

end BlockTest

namespace Check

variable (r : Registry)

theorem blocksOf_eq_error_iff {vs : List Json} :
    (∃ f, blocksOf r vs = .error f) ↔
      Reaches (fun raw => ∃ compiled, BlockTest.compile r raw = .ok compiled)
        (BlockTest.Faulty r) vs := by
  induction vs with
  | nil => simp [blocksOf, Reaches]
  | cons raw rest ih =>
    simp only [Reaches, ← ih, ← BlockTest.stuck_compile_iff, blocksOf]
    rcases h : BlockTest.compile r raw with (e | f) | compiled
    · simp
    · simp
    · simp [Except.bind_eq_error_iff]

theorem accounted_of_blocksOf {vs : List Json} {tests : List (List BlockTest)}
    {reported : List Diagnostic} (h : blocksOf r vs = .ok (.ok tests, reported)) :
    ∀ raw ∈ vs, BlockTest.Accounted r reported raw := by
  induction vs generalizing tests reported with
  | nil => simp
  | cons raw rest ih =>
    rcases hraw : BlockTest.compile r raw with (e | f) | compiled
    · simp [blocksOf, hraw] at h
    · simp [blocksOf, hraw] at h
    · simp only [blocksOf, hraw, Except.bind_eq_ok_iff] at h
      obtain ⟨⟨others, more⟩, hrest, hout⟩ := h
      obtain ⟨hothers, rfl⟩ := Prod.mk.inj (Except.ok.inj hout)
      obtain ⟨tests, rfl, _⟩ := Except.map_eq_ok_iff.1 hothers
      refine List.forall_mem_cons.2 ⟨?_, fun raw' hraw' => ?_⟩
      · exact BlockTest.accounted_of_compile hraw (List.subset_append_left _ _)
      · exact (ih hrest raw' hraw').mono (List.subset_append_right _ _)

end Check
end RuleGate
