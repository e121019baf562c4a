import RuleGate.Proofs.Descriptor.Answers
import RuleGate.Proofs.Descriptor.Blocks
import RuleGate.Proofs.Schema.Editing

/-!
# The units of a described block

The fields of a block come in four units: the name with its properties, the namespace, the energy
and the contents, each of the last two with a side. What is left of an object when it is cut down to
one of them is a description of its own (`BlockUnit.only`), and at a place where each of these has
an answer, the block is as the whole object says exactly if it is as each of them says
(`BlockTest.conjoins_of_compileObject`).
-/

namespace RuleGate

/-- The fields of a block that are read together. -/
inductive BlockUnit
  | block | mod | energy | contains
  deriving DecidableEq, Repr

namespace BlockUnit

def all : List BlockUnit := [block, mod, energy, contains]

theorem mem_all (u : BlockUnit) : u ∈ all := by
  cases u <;> decide

/-- The field without which the others of the unit say nothing. -/
def main : BlockUnit → Text
  | block => "block"
  | mod => "mod"
  | energy => "energy"
  | contains => "contains"

def names : BlockUnit → List Text
  | block => ["block", "properties"]
  | mod => ["mod"]
  | energy => ["energy", "side"]
  | contains => ["contains", "side"]

/-- The object cut down to the fields of the unit. -/
def only (u : BlockUnit) (object : Fields) : Fields :=
  object.filter fun field => field.1 ∈ u.names

def Present (u : BlockUnit) (object : Fields) : Prop :=
  ∃ v, object.get? u.main = some v ∧ v ≠ .null

theorem get?_only (u : BlockUnit) (object : Fields) (name : Text) :
    (u.only object).get? name = if name ∈ u.names then object.get? name else none := by
  have hfilter := Table.get?_filter (fun name => decide (name ∈ u.names)) object name
  simpa only [decide_eq_true_iff, only] using hfilter

end BlockUnit

namespace BlockDescriptor

open Schema

theorem read_form_iff {object : Fields} {d : BlockDescriptor} : form.read object = .valid d ↔
    (Form.optional "block" none (nullable text)).read object = .valid d.block ∧
    (Form.optional "properties" none (nullable (listOf BlockProperty.shape))).read object =
      .valid d.properties ∧
    (Form.optional "mod" none (nullable text)).read object = .valid d.mod ∧
    (Form.optional "energy" .null anything).read object = .valid d.energy ∧
    (Form.optional "side" none (nullable text)).read object = .valid d.side ∧
    (Form.optional "contains" .null anything).read object = .valid d.contains := by
  simp only [form, Form.read_seq, Form.read_map, Checked.seq_eq_valid_iff,
    Checked.map_eq_valid_iff]
  constructor
  · rintro ⟨_, ⟨_, ⟨_, ⟨_, ⟨_, ⟨block, hblock, rfl⟩, properties, hproperties, rfl⟩, mod, hmod, rfl⟩,
      energy, henergy, rfl⟩, side, hside, rfl⟩, contains, hcontains, rfl⟩
    exact ⟨hblock, hproperties, hmod, henergy, hside, hcontains⟩
  · rintro ⟨hblock, hproperties, hmod, henergy, hside, hcontains⟩
    exact ⟨_, ⟨_, ⟨_, ⟨_, ⟨_, ⟨_, hblock, rfl⟩, _, hproperties, rfl⟩, _, hmod, rfl⟩, _, henergy,
      rfl⟩, _, hside, rfl⟩, _, hcontains, rfl⟩

/-- What is left of a descriptor when its object is cut down to one unit. -/
def cut (d : BlockDescriptor) : BlockUnit → BlockDescriptor
  | .block => ⟨d.block, d.properties, none, .null, none, .null⟩
  | .mod => ⟨none, none, d.mod, .null, none, .null⟩
  | .energy => ⟨none, none, none, d.energy, d.side, .null⟩
  | .contains => ⟨none, none, none, .null, d.side, d.contains⟩

theorem read_optional_only {α : Type} (u : BlockUnit) (object : Fields) (name : Text) (absent : α)
    (shape : Shape α) : (Form.optional name absent shape).read (u.only object) =
      if name ∈ u.names then (Form.optional name absent shape).read object else .valid absent := by
  have hget := BlockUnit.get?_only u object name
  split
  case isTrue hname => exact Form.read_optional_congr (hget.trans (if_pos hname)) absent shape
  case isFalse hname => exact Form.read_optional_of_eq_none (hget.trans (if_neg hname)) absent shape

theorem read_only {object : Fields} {d : BlockDescriptor} (h : form.read object = .valid d)
    (u : BlockUnit) : form.read (u.only object) = .valid (d.cut u) := by
  obtain ⟨hblock, hproperties, hmod, henergy, hside, hcontains⟩ := read_form_iff.1 h
  rw [read_form_iff]
  simp only [read_optional_only, hblock, hproperties, hmod, henergy, hside, hcontains]
  cases u with
  | block => exact ⟨rfl, rfl, rfl, rfl, rfl, rfl⟩
  | mod => exact ⟨rfl, rfl, rfl, rfl, rfl, rfl⟩
  | energy => exact ⟨rfl, rfl, rfl, rfl, rfl, rfl⟩
  | contains => exact ⟨rfl, rfl, rfl, rfl, rfl, rfl⟩

/-- The main field of the unit is not there, or null. -/
def Lacks (d : BlockDescriptor) : BlockUnit → Prop
  | .block => d.block = none
  | .mod => d.mod = none
  | .energy => d.energy = .null
  | .contains => d.contains = .null

theorem Lacks.cut {d : BlockDescriptor} {u : BlockUnit} (h : d.Lacks u) (u' : BlockUnit) :
    (d.cut u).Lacks u' := by
  cases u <;> cases u' <;> first | rfl | exact h

theorem eq_absent_of_read_optional {α : Type} {name : Text} {absent a : α} {shape : Shape α}
    {object : Fields} (hread : (Form.optional name absent shape).read object = .valid a)
    (hnull : shape .null = .valid absent) (h : ∀ v, object.get? name = some v → v = .null) :
    a = absent := by
  cases hget : object.get? name with
  | none =>
    rw [Form.read_optional_of_eq_none hget] at hread
    cases hread
    rfl
  | some v =>
    rw [Form.read_optional_of_eq_some hget, Checked.under_eq_valid_iff, h v hget, hnull] at hread
    cases hread
    rfl

theorem lacks_of_not_present {object : Fields} {d : BlockDescriptor}
    (hread : form.read object = .valid d) {u : BlockUnit} (h : ¬ u.Present object) :
    d.Lacks u := by
  have hnull (v : Json) (hv : object.get? u.main = some v) : v = .null := by
    by_contra hne
    exact h ⟨v, hv, hne⟩
  obtain ⟨hblock, -, hmod, henergy, -, hcontains⟩ := read_form_iff.1 hread
  cases u with
  | block => exact eq_absent_of_read_optional hblock rfl hnull
  | mod => exact eq_absent_of_read_optional hmod rfl hnull
  | energy => exact eq_absent_of_read_optional henergy rfl hnull
  | contains => exact eq_absent_of_read_optional hcontains rfl hnull

end BlockDescriptor

namespace BlockTest

variable {r : Registry} {object : Fields} {d : BlockDescriptor} {compiled : Compiled}

theorem withContents_eq_map (plain : List BlockTest) (side : Option Direction) :
    withContents r plain side d =
      (withContents r [] side d).map fun c => ⟨plain ++ c.tests, c.diagnostics⟩ := by
  unfold withContents
  cases contentsOf? d.contains with
  | none => simp [Except.map]
  | some wanted =>
    dsimp only
    cases Failure.ofFault (ItemTest.compileAll r wanted) <;> rfl

theorem exists_withContents {plain : List BlockTest} {side : Option Direction}
    (h : withContents r plain side d = .ok compiled) :
    ∃ wanted diagnostics, compiled.tests = plain ++ wanted ∧
      withContents r [] side d = .ok ⟨wanted, diagnostics⟩ := by
  rw [withContents_eq_map] at h
  obtain ⟨⟨wanted, diagnostics⟩, hwanted, rfl⟩ := Except.map_eq_ok_iff.1 h
  exact ⟨wanted, diagnostics, rfl, hwanted⟩

theorem exists_tests (h : compileDescriptor r d = .ok compiled) :
    ∃ tests : BlockUnit → List BlockTest,
      compiled.tests = (BlockUnit.all.map tests).flatten ∧
      ∀ u, ∃ diagnostics, compileDescriptor r (d.cut u) = .ok ⟨tests u, diagnostics⟩ := by
  obtain ⟨identity, side, energy, hidentity, hside, henergy, hcontents⟩ :=
    compileDescriptor_eq_ok_iff.1 h
  obtain ⟨wanted, diagnostics, htests, hwanted⟩ := exists_withContents hcontents
  let tests : BlockUnit → List BlockTest
    | .block => identity.toList
    | .mod => (d.mod.map mod).toList
    | .energy => (energy.map fun e => BlockTest.energy e side).toList
    | .contains => wanted
  refine ⟨tests, ?_, fun u => ?_⟩
  · rw [htests]
    simp [BlockUnit.all, tests]
  · simp only [compileDescriptor_eq_ok_iff]
    cases u with
    | block =>
      refine ⟨[], identity, none, none, hidentity, rfl, rfl, ?_⟩
      rw [withContents_of_null r _ _ rfl]
      simp [BlockDescriptor.cut, tests]
    | mod =>
      refine ⟨[], none, none, none, rfl, rfl, rfl, ?_⟩
      rw [withContents_of_null r _ _ rfl]
      simp [BlockDescriptor.cut, tests]
    | energy =>
      refine ⟨[], none, side, energy, rfl, hside, henergy, ?_⟩
      rw [withContents_of_null r _ _ rfl]
      rfl
    | contains => exact ⟨diagnostics, none, side, none, rfl, hside, rfl, hwanted⟩

theorem tests_eq_nil_of_lacks (h : compileDescriptor r d = .ok compiled)
    (hlacks : ∀ u, d.Lacks u) : compiled.tests = [] := by
  obtain ⟨identity, side, energy, hidentity, -, henergy, hcontents⟩ :=
    compileDescriptor_eq_ok_iff.1 h
  have hblock : d.block = none := hlacks .block
  have hmod : d.mod = none := hlacks .mod
  have hnull : d.energy = .null := hlacks .energy
  rw [hblock] at hidentity
  cases hidentity
  rw [hnull] at henergy
  cases henergy
  rw [withContents_of_null r _ _ (hlacks .contains), hmod] at hcontents
  obtain rfl := Except.ok.inj hcontents
  rfl

theorem allHold_of_isLoaded {w : World} {pos : BlockPos} (h : w.isLoaded pos.chunk)
    (tests : List BlockTest) : allHold w pos tests = tests.allM (holds w pos) :=
  if_pos h

theorem allHold_of_not_isLoaded {w : World} {pos : BlockPos} (h : w.isLoaded pos.chunk = false)
    (tests : List BlockTest) : allHold w pos tests = .ok false := by
  rw [allHold, h]
  rfl

theorem compile_only_iff {u : BlockUnit} (hread : BlockDescriptor.form.read object = .valid d) :
    compile r (.obj (u.only object)) = .ok compiled ↔
      compileDescriptor r (d.cut u) = .ok compiled := by
  change compileObject r _ = _ ↔ _
  simp only [compileObject_eq_ok_iff, BlockDescriptor.read_only hread, Schema.Checked.valid.injEq,
    exists_eq_left']

/-- What each unit that is present is compiled to; those that are not have no tests. -/
structure SplitInto (r : Registry) (object : Fields) (tests : BlockUnit → List BlockTest) :
    Prop where
  compiles : ∀ u, ∃ diagnostics, compile r (.obj (u.only object)) = .ok ⟨tests u, diagnostics⟩
  absent : ∀ u, ¬ BlockUnit.Present u object → tests u = []

theorem SplitInto.forall_iff {tests : BlockUnit → List BlockTest} (h : SplitInto r object tests)
    {P : List BlockTest → Prop} (hnil : P []) : (∀ u, P (tests u)) ↔
      ∀ u compiled, BlockUnit.Present u object →
        compile r (.obj (u.only object)) = .ok compiled → P compiled.tests := by
  constructor
  · intro hall u compiled _ hu
    obtain ⟨diagnostics, hcompile⟩ := h.compiles u
    cases hu.symm.trans hcompile
    exact hall u
  · intro hall u
    by_cases hu : u.Present object
    · obtain ⟨diagnostics, hcompile⟩ := h.compiles u
      exact hall u _ hu hcompile
    · rw [h.absent u hu]
      exact hnil

theorem exists_splitInto (h : compileObject r object = .ok compiled) :
    ∃ tests, SplitInto r object tests ∧ compiled.tests = (BlockUnit.all.map tests).flatten := by
  obtain ⟨d, hread, hcompile⟩ := compileObject_eq_ok_iff.1 h
  obtain ⟨tests, htests, hcut⟩ := exists_tests hcompile
  refine ⟨tests, ⟨fun u => ?_, fun u hu => ?_⟩, htests⟩
  · obtain ⟨diagnostics, hu⟩ := hcut u
    exact ⟨diagnostics, (compile_only_iff hread).2 hu⟩
  · obtain ⟨diagnostics, hcompiled⟩ := hcut u
    have hlacks := BlockDescriptor.lacks_of_not_present hread hu
    exact tests_eq_nil_of_lacks hcompiled fun u' => hlacks.cut u'

/-- All of the object is asked for where all of its units are. -/
structure Conjoins (r : Registry) (object : Fields) (tests : List BlockTest) : Prop where
  unloaded : ∀ {w : World} {pos : BlockPos}, w.isLoaded pos.chunk = false →
    allHold w pos tests = .ok false
  bare : (∀ u, ¬ BlockUnit.Present u object) → ∀ {w : World} {pos : BlockPos},
    w.isLoaded pos.chunk → allHold w pos tests = .ok true
  compiles : ∀ {u : BlockUnit}, u.Present object →
    ∃ compiled, compile r (.obj (u.only object)) = .ok compiled
  conjunction : ∀ {w : World} {pos : BlockPos}, w.isLoaded pos.chunk →
    (∀ u compiled, BlockUnit.Present u object →
      compile r (.obj (u.only object)) = .ok compiled → ∃ b, allHold w pos compiled.tests = .ok b) →
    Except.Decides (allHold w pos tests) (∀ u compiled, BlockUnit.Present u object →
      compile r (.obj (u.only object)) = .ok compiled → allHold w pos compiled.tests = .ok true)

theorem conjoins_of_compileObject (h : compileObject r object = .ok compiled) :
    Conjoins r object compiled.tests := by
  obtain ⟨tests, hsplit, htests⟩ := exists_splitInto h
  refine ⟨fun hunloaded => allHold_of_not_isLoaded hunloaded _, fun habsent w pos hloaded => ?_,
    fun {u} _ => ?_, ?_⟩
  · have hnil : compiled.tests = [] := by
      simp [htests, BlockUnit.all, hsplit.absent _ (habsent _)]
    rw [hnil, allHold_of_isLoaded hloaded]
    rfl
  · obtain ⟨diagnostics, hu⟩ := hsplit.compiles u
    exact ⟨_, hu⟩
  · intro w pos hloaded hanswers
    simp only [allHold_of_isLoaded hloaded] at hanswers ⊢
    have hunits : ∀ u, ∃ b, (tests u).allM (holds w pos) = .ok b :=
      (hsplit.forall_iff (P := fun ts => ∃ b, ts.allM (holds w pos) = .ok b) ⟨true, rfl⟩).2 hanswers
    have hdecides := Except.decides_allM_flatten (p := holds w pos)
      (List.forall_mem_map.2 fun u (_ : u ∈ BlockUnit.all) => hunits u)
    rw [htests]
    refine hdecides.congr (Iff.trans ?_
      (hsplit.forall_iff (P := fun ts => ts.allM (holds w pos) = .ok true) rfl))
    simp only [List.forall_mem_map, BlockUnit.mem_all, forall_const]

end BlockTest
end RuleGate
