import RuleGate.Rule.Attributes
import RuleGate.Rule.Check

/-!
# Compiling a rule

Every key of a rule is compiled by itself, from its own values and, for `block`, those of
`blockoffset`. The outcome is a check or none, and what there is to report; a rule is the checks of
its keys in their order, and its report is theirs put together. Whether a key has the capability it
needs is settled before its values are looked at.
-/

namespace RuleGate

structure CompiledCheck where
  key : Key
  check : Check

abbrev Rule := List CompiledCheck

structure Outcome where
  check : Option Check
  diagnostics : List Diagnostic

namespace Outcome

def none : Outcome := ⟨.none, []⟩

def ofResult : Except CompileError Check → Outcome
  | .ok c => ⟨some c, []⟩
  | .error e => ⟨.none, [.omitted e]⟩

/-- From the first of the values; the others are not looked at. -/
def ofFirst {α : Type} (vs : List α) (f : α → Except CompileError Check) : Outcome :=
  match vs with
  | v :: _ => ofResult (f v)
  | [] => none

end Outcome

namespace Check

variable (r : Registry) (a : RuleAttributes)

/-- A state and its wanted value, with an equals sign between them. -/
def splitState (key : Key) (text : Text) : Except CompileError (Text × Text) :=
  match Text.splitAt '=' text with
  | (name, some value) =>
    let name := Text.strip name
    let value := Text.strip value
    if name.isEmpty || value.isEmpty then .error (.badState key text)
    else .ok (name, value)
  | _ => .error (.badState key text)

def weatherOf (name : Text) : Except CompileError Check :=
  let lowered := Text.lower name
  if ("rain" : Text).isPrefixOf lowered then .ok rain
  else if ("thunder" : Text).isPrefixOf lowered then .ok thunder
  else .error (.unknownWeather name)

def difficultyOf (name : Text) : Except CompileError Check :=
  match Named.ofLooseName? name with
  | some d => .ok (difficulty d)
  | none => .error (.unknownDifficulty name)

/-- The biomes of all types, unless one of the types is unknown. -/
def biomesOf : List Text → Except CompileError (List Text)
  | [] => .ok []
  | name :: rest =>
    match r.biomesOfType? name with
    | some ids => (biomesOf rest).map (ids ++ ·)
    | none => .error (.unknownBiomeType name)

/-- The tests of all block descriptors up to the first that fails, and the warnings so far. -/
def blocksOf : List Json →
    Except NumberFault (Except CompileError (List (List BlockTest)) × List Diagnostic)
  | [] => .ok (.ok [], [])
  | raw :: rest =>
    match BlockTest.compile r raw with
    | .error (.number f) => .error f
    | .error (.compile e) => .ok (.error e, [])
    | .ok compiled => do
      let (others, more) ← blocksOf rest
      return (others.map (compiled.tests :: ·), compiled.diagnostics ++ more)

def offsetOf : List Json → Except Failure (Option Offset)
  | [] => .ok none
  | raw :: _ => (Offset.compile raw).map some

def compileBlocks : Except NumberFault Outcome :=
  match offsetOf (a.getList .blockOffset) with
  | .error (.number f) => .error f
  | .error (.compile e) => .ok (.ofResult (.error e))
  | .ok offset => do
    let (wanted, reported) ← blocksOf r (a.getList .block)
    let outcome := Outcome.ofResult (wanted.map (block offset))
    return ⟨outcome.check, reported ++ outcome.diagnostics⟩

/-- No check at all if every description was left out. -/
def compileItems (vs : List Json) (f : List ItemTest → Check) : Except NumberFault Outcome := do
  let batch ← ItemTest.compileAll r vs
  return ⟨if batch.tests.isEmpty then none else some (f batch.tests), batch.diagnostics⟩

def lowered (names : List Text) : List Text := names.map Text.lower

def normalised (names : List Text) : List Text := names.map ResourceName.normalise

def compile : Key → Except NumberFault Outcome
  | .random => .ok (.ofFirst (a.getList .random) fun chance => .ok (random chance))
  | .dimension => .ok (.ofResult (.ok (dimension (normalised (a.getList .dimension)))))
  | .dimensionMod => .ok (.ofResult (.ok (dimensionMod (a.getList .dimensionMod))))
  | .minTime => .ok (.ofFirst (a.getList .minTime) fun t => .ok (time .atLeast t))
  | .maxTime => .ok (.ofFirst (a.getList .maxTime) fun t => .ok (time .atMost t))
  | .minHeight => .ok (.ofFirst (a.getList .minHeight) fun y => .ok (height .atLeast y))
  | .maxHeight => .ok (.ofFirst (a.getList .maxHeight) fun y => .ok (height .atMost y))
  | .weather => .ok (.ofFirst (a.getList .weather) weatherOf)
  | .category => .ok (.ofResult (.ok (category (lowered (a.getList .category)))))
  | .difficulty => .ok (.ofFirst (a.getList .difficulty) difficultyOf)
  | .minSpawnDist =>
    .ok (.ofFirst (a.getList .minSpawnDist) fun d => .ok (spawnDistance .atLeast (.mul d d)))
  | .maxSpawnDist =>
    .ok (.ofFirst (a.getList .maxSpawnDist) fun d => .ok (spawnDistance .atMost (.mul d d)))
  | .minLight => .ok (.ofFirst (a.getList .minLight) fun n => .ok (light .atLeast n))
  | .maxLight => .ok (.ofFirst (a.getList .maxLight) fun n => .ok (light .atMost n))
  | .minDifficulty =>
    .ok (.ofFirst (a.getList .minDifficulty) fun d => .ok (localDifficulty .atLeast d))
  | .maxDifficulty =>
    .ok (.ofFirst (a.getList .maxDifficulty) fun d => .ok (localDifficulty .atMost d))
  | .seeSky => .ok (.ofFirst (a.getList .seeSky) fun b => .ok (seesSky b))
  | .block => compileBlocks r a
  | .blockOffset => .ok .none
  | .biome => .ok (.ofResult (.ok (biome (a.getList .biome))))
  | .biomeType => .ok (.ofResult ((biomesOf r (a.getList .biomeType)).map biomeId))
  | .helmet => compileItems r (a.getList .helmet) (equipment [.head])
  | .chestplate => compileItems r (a.getList .chestplate) (equipment [.chest])
  | .leggings => compileItems r (a.getList .leggings) (equipment [.legs])
  | .boots => compileItems r (a.getList .boots) (equipment [.feet])
  | .playerHeldItem => compileItems r (a.getList .playerHeldItem) (equipment [.mainhand])
  | .heldItem => compileItems r (a.getList .heldItem) (equipment [.mainhand])
  | .offHandItem => compileItems r (a.getList .offHandItem) (equipment [.offhand])
  | .bothHandsItem => compileItems r (a.getList .bothHandsItem) (equipment [.offhand, .mainhand])
  | .structureName => .ok (.ofFirst (a.getList .structureName) fun s => .ok (inStructure s))
  | .state =>
    .ok (.ofFirst (a.getList .state) fun s =>
      (splitState .state s).map fun p => worldState p.1 p.2)
  | .playerState =>
    .ok (.ofFirst (a.getList .playerState) fun s =>
      (splitState .playerState s).map fun p => playerState p.1 p.2)
  | .summer => .ok (.ofFirst (a.getList .summer) fun b => .ok (season .summer b))
  | .winter => .ok (.ofFirst (a.getList .winter) fun b => .ok (season .winter b))
  | .spring => .ok (.ofFirst (a.getList .spring) fun b => .ok (season .spring b))
  | .autumn => .ok (.ofFirst (a.getList .autumn) fun b => .ok (season .autumn b))
  | .gameStage => .ok (.ofFirst (a.getList .gameStage) fun s => .ok (stage s))
  | .inCity => .ok (.ofFirst (a.getList .inCity) fun b => .ok (cityPlace .city b))
  | .inStreet => .ok (.ofFirst (a.getList .inStreet) fun b => .ok (cityPlace .street b))
  | .inSphere => .ok (.ofFirst (a.getList .inSphere) fun b => .ok (cityPlace .sphere b))
  | .inBuilding => .ok (.ofFirst (a.getList .inBuilding) fun b => .ok (cityPlace .building b))
  | .amulet => compileItems r (a.getList .amulet) (bauble .amulet)
  | .ring => compileItems r (a.getList .ring) (bauble .ring)
  | .belt => compileItems r (a.getList .belt) (bauble .belt)
  | .trinket => compileItems r (a.getList .trinket) (bauble .trinket)
  | .head => compileItems r (a.getList .head) (bauble .head)
  | .body => compileItems r (a.getList .body) (bauble .body)
  | .charm => compileItems r (a.getList .charm) (bauble .charm)

end Check

namespace Rule

variable (r : Registry) (i : Integrations) (a : RuleAttributes)

def missing? (k : Key) : Option Capability :=
  k.capability?.filter fun c => !i.supports c

def compileKey (k : Key) : Except NumberFault Outcome :=
  if !a.has k then .ok .none
  else
    match missing? i k with
    | some c => .ok (.ofResult (.error (.missingCapability c k)))
    | none => Check.compile r a k

def compileKeys : List Key → Except NumberFault (Rule × List Diagnostic)
  | [] => .ok ([], [])
  | k :: rest => do
    let outcome ← compileKey r i a k
    let (checks, reported) ← compileKeys rest
    return ((outcome.check.map (CompiledCheck.mk k)).toList ++ checks,
      outcome.diagnostics ++ reported)

def compile : Except NumberFault (Rule × List Diagnostic) :=
  compileKeys r i a Key.checkOrder

def keys (rule : Rule) : List Key :=
  rule.map CompiledCheck.key

end Rule
end RuleGate
