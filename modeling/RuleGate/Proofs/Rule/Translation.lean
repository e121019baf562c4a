import RuleGate.Proofs.Rule.Kinds
import RuleGate.Proofs.Rule.Matching
import RuleGate.Proofs.World.Translation

/-!
# Rules do not know where they are

Only a bound on the height is about a place itself; every other check is about what is there, or
about a distance. So a check that is none of height gives the same answer when the event, its world
and the tables of the integrations are moved together (`Check.holds_translate`), and a rule without
`minheight` and `maxheight` matches as before (`Rule.run_translate`).
-/

namespace RuleGate

variable (s : Shift) (i : Integrations) (e : Event)

theorem Offset.resolve_translate (o : Offset) :
    o.resolve (e.translate s) = (o.resolve e).map (.translate s) := by
  have horigin : o.origin (e.translate s) = (o.origin e).map (.translate s) := by
    obtain ⟨world, pos, player, blockPos⟩ := e
    obtain ⟨dx, dy, dz, look⟩ := o
    cases look
    · exact Event.targetPos_translate s _
    · cases world with
      | none => exact Event.targetPos_translate s _
      | some w =>
        cases player with
        | none => exact Event.targetPos_translate s _
        | some p =>
          obtain ⟨_, _, lookingAt⟩ := p
          cases lookingAt with
          | none => exact Event.targetPos_translate s _
          | some target => rfl
  unfold resolve
  rw [horigin, Option.map_map, Option.map_map]
  exact congrArg (fun f => (o.origin e).map f) (funext fun p => p.offset_translate s _ _ _)

namespace BlockTest

variable (w : World) (pos : BlockPos)

theorem holds_translate (t : BlockTest) :
    t.holds (w.translate s) (pos.translate s) = t.holds w pos := by
  cases t <;> simp only [holds, World.blockAt_translate, World.entityAt_translate]

theorem allHold_translate (tests : List BlockTest) :
    allHold (w.translate s) (pos.translate s) tests = allHold w pos tests := by
  have htests : holds (w.translate s) (pos.translate s) = holds w pos :=
    funext (holds_translate s w pos)
  simp only [allHold, BlockPos.chunk_translate, World.isLoaded_translate, htests]

end BlockTest

namespace Check

theorem withWorld_translate {test test' : World → Bool}
    (h : ∀ w, test' (w.translate s) = test w) :
    withWorld (e.translate s) test' = withWorld e test := by
  obtain ⟨world, _, _, _⟩ := e
  cases world with
  | none => rfl
  | some w => exact h w

theorem withPlace_translate {test test' : World → BlockPos → Bool}
    (h : ∀ w p, test' (w.translate s) (p.translate s) = test w p) :
    withPlace (e.translate s) test' = withPlace e test := by
  unfold withPlace
  rw [Event.located_translate]
  cases e.located with
  | none => rfl
  | some place => exact h place.1 place.2

theorem withPlayer_translate (test : Player → Bool) (h : ∀ p, test (p.translate s) = test p) :
    withPlayer (e.translate s) test = withPlayer e test := by
  obtain ⟨_, _, player, _⟩ := e
  cases player with
  | none => rfl
  | some p => exact h p

theorem blockHolds_translate (offset : Option Offset) (wanted : List (List BlockTest)) :
    blockHolds offset wanted (e.translate s) = blockHolds offset wanted e := by
  have hplace : blockPlace offset (e.translate s) = (blockPlace offset e).map (.translate s) := by
    cases offset with
    | none => exact Event.targetPos_translate s e
    | some o => exact o.resolve_translate s e
  unfold blockHolds
  rw [hplace, Event.world_translate]
  cases e.world with
  | none => rfl
  | some w =>
    cases blockPlace offset e with
    | none => rfl
    | some pos =>
      have htests : BlockTest.allHold (w.translate s) (pos.translate s) =
          BlockTest.allHold w pos := funext (BlockTest.allHold_translate s w pos)
      simp only [Option.map_some, isOneOfBlocks, htests]

/-- A bound on the height is the one question about a place itself. -/
def asksHeight : Check → Bool
  | height _ _ => true
  | _ => false

theorem holds_translate {c : Check} (hc : c.asksHeight = false) (draw : Number) :
    c.holds (i.translate s) (e.translate s) draw = c.holds i e draw := by
  cases c with
  | height bound limit => cases hc
  | random chance => rfl
  | block offset wanted => exact blockHolds_translate s e offset wanted
  | equipment slots wanted =>
    simp only [holds, equipmentHolds, Event.player_translate]
    cases e.player <;> rfl
  | bauble slot wanted =>
    simp only [holds, baubleHolds, Event.player_translate, Integrations.baubleSlots_translate,
      Integrations.baubleStack_translate]
    cases e.player <;> rfl
  | playerState name value =>
    refine congrArg Except.ok ?_
    simp only [Integrations.playerState?_translate]
    exact withPlayer_translate s e _ fun p => rfl
  | stage name =>
    refine congrArg Except.ok ?_
    simp only [Integrations.hasStage_translate]
    exact withPlayer_translate s e _ fun p => rfl
  | cityPlace place expected =>
    simp only [holds, Event.pos_translate, Integrations.isAt_translate]
  | biome allowed =>
    refine congrArg Except.ok (withPlace_translate s e fun w p => ?_)
    simp only [biomeHolds, World.biomeAt_translate, Integrations.biomeName?_translate]
  | category | spawnDistance | light | localDifficulty | seesSky | biomeId | inStructure =>
    exact congrArg Except.ok (withPlace_translate s e fun w p => by simp)
  | worldState | season => exact congrArg Except.ok (withWorld_translate s e fun w => by simp)
  -- the others ask about what is nowhere in the world and so has not been moved
  | _ => exact congrArg Except.ok (withWorld_translate s e fun w => rfl)

theorem asksHeight_eq_false {k : Key} {c : Check} (h : k ∈ c.origins) (hmin : k ≠ .minHeight)
    (hmax : k ≠ .maxHeight) : c.asksHeight = false := by
  cases c with
  | height bound limit =>
    cases bound with
    | atLeast => exact absurd (List.mem_singleton.1 h) hmin
    | atMost => exact absurd (List.mem_singleton.1 h) hmax
  | _ => rfl

end Check

namespace Rule

theorem compile_translate (r : Registry) (a : RuleAttributes) :
    compile r (i.translate s) a = compile r i a :=
  compile_congr_supports r a fun c => Integrations.supports_translate s i c

theorem run_translate_of_asksNoHeight {rule : Rule} (h : ∀ c ∈ rule, c.check.asksHeight = false)
    (source : Nat → Number) (used : Nat) :
    run (i.translate s) (e.translate s) source used rule = run i e source used rule :=
  run_congr _ _ (fun c hc => Check.holds_translate s i e (h c hc)) source used

theorem asksHeight_eq_false {r : Registry} {a : RuleAttributes} {rule : Rule}
    {reported : List Diagnostic} (h : compile r i a = .ok (rule, reported))
    (hmin : a.has .minHeight = false) (hmax : a.has .maxHeight = false) :
    ∀ c ∈ rule, c.check.asksHeight = false := by
  intro c hc
  obtain ⟨hhas, horigin⟩ := has_and_mem_origins r i a h hc
  have hne {k : Key} (hk : a.has k = false) : c.key ≠ k := by
    rintro rfl
    rw [hhas] at hk
    cases hk
  exact Check.asksHeight_eq_false horigin (hne hmin) (hne hmax)

/-- A rule that asks for no height is compiled to the same checks, and comes to the same verdict
with as many numbers used up, when everything around it is moved. -/
theorem run_translate (r : Registry) {a : RuleAttributes} (hmin : a.has .minHeight = false)
    (hmax : a.has .maxHeight = false) :
    compile r (i.translate s) a = compile r i a ∧
      ∀ rule reported, compile r i a = .ok (rule, reported) → ∀ e source used,
        run (i.translate s) (e.translate s) source used rule = run i e source used rule := by
  refine ⟨compile_translate s i r a, fun rule reported h e source used => ?_⟩
  exact run_translate_of_asksNoHeight s i e (asksHeight_eq_false i h hmin hmax) source used

/-- A block one step to the west of the event, in a city and in a fort. -/
def fortAttributes : RuleAttributes :=
  .ofAdditions [⟨.block, .str "stone"⟩, ⟨.blockOffset, .obj [("offset", .obj [("x", .int (-1))])]⟩,
    ⟨.structureName, ("fort" : Text)⟩, ⟨.inCity, true⟩]

def fortRule : Rule := [
    ⟨.block, .block (some ⟨-1, 0, 0, false⟩) [[.block "minecraft:stone"]]⟩,
    ⟨.structureName, .inStructure "fort"⟩,
    ⟨.inCity, .cityPlace .city true⟩]

def fortEvent : Event where
  world := some {
    blocks := [(⟨-17, 70, -1⟩, ⟨"minecraft:stone", []⟩)]
    structures := [("minecraft:fort", [⟨-1, -1⟩])] }
  pos := some ⟨-16, 70, -1⟩

def fortCities : Integrations :=
  .tables { capabilities := [.lostCities], cities := [⟨-1, -1⟩] }

theorem run_translate_fort :
    (fortAttributes.has .minHeight = false ∧ fortAttributes.has .maxHeight = false ∧
      compile ⟨[], [("minecraft:stone", [])], []⟩ fortCities fortAttributes = .ok (fortRule, [])) ∧
    compile ⟨[], [("minecraft:stone", [])], []⟩ (fortCities.translate ⟨2, -70, -3⟩) fortAttributes =
      compile ⟨[], [("minecraft:stone", [])], []⟩ fortCities fortAttributes ∧
    run (fortCities.translate ⟨2, -70, -3⟩) (fortEvent.translate ⟨2, -70, -3⟩) (fun _ => .int 0) 0
      fortRule = run fortCities fortEvent (fun _ => .int 0) 0 fortRule ∧
    run fortCities fortEvent (fun _ => .int 0) 0 fortRule = (⟨true, none⟩, 0) :=
  have h := run_translate ⟨2, -70, -3⟩ fortCities ⟨[], [("minecraft:stone", [])], []⟩
    (a := fortAttributes) rfl rfl
  ⟨⟨rfl, rfl, rfl⟩, h.1, h.2 fortRule [] rfl fortEvent _ 0, rfl⟩

end Rule
end RuleGate
