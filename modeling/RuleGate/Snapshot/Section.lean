import RuleGate.Integration.Basic
import RuleGate.Schema.Record

/-!
# Sections of a snapshot

A snapshot describes a registry, an event with its world and player, and the integrations. These
are its sections as they are written: every field is checked and has a value, and names are as they
were spelled. No section has fields other than its own.
-/

namespace RuleGate.Snapshot

open Schema

structure StackEntry where
  item : Text
  count : Int
  damage : Int
  tag : Option Fields
  energy : Option Int

structure EntityEntry where
  items : Option (List StackEntry)
  energy : Option Int
  sides : Option (List Direction)

structure PlacedBlock where
  pos : BlockPos
  block : Text
  properties : Table Text Text
  entity : Option EntityEntry

structure BiomeEntry where
  id : Text := "minecraft:plains"
  category : Text := "plains"

structure RegistrySection where
  items : List Text := []
  blocks : Table Text (Table Text (List Text)) := []
  biomeTypes : Table Text (List Text) := []

structure WorldSection where
  dimension : Text := "minecraft:overworld"
  dayTime : Option Int := some 0
  raining : Bool := false
  thundering : Bool := false
  difficulty : Difficulty := .normal
  spawn : BlockPos := ⟨0, 64, 0⟩
  biome : BiomeEntry := {}
  light : Int := 15
  localDifficulty : Double := .ofRatio false 3 2
  covered : List BlockPos := []
  blocks : List PlacedBlock := []
  unloaded : List Chunk := []
  structures : Table Text (List Chunk) := []

structure PlayerSection where
  name : Text
  equipment : Table EquipmentSlot StackEntry
  lookingAt : Option BlockPos

structure EventSection where
  pos : BlockPos
  blockPos : Option BlockPos

structure IntegrationSection where
  capabilities : Option (List Capability) := none
  seasons : Table Text Season := []
  worldStates : Table Text Text := []
  playerStates : Table Text (Table Text Text) := []
  gameStages : Table Text (List Text) := []
  cities : List Chunk := []
  streets : List Chunk := []
  spheres : List Chunk := []
  buildings : List Chunk := []
  baubles : Table Text (Table Int StackEntry) := []
  biomeNames : Table Text Text := []

structure Sections where
  registry : RegistrySection
  world : Option WorldSection
  player : Option PlayerSection
  event : Option EventSection
  integrations : IntegrationSection

def anyName (s : Text) : Checked Text := .valid s

def namedTable {α : Type} (shape : Shape α) : Shape (Table Text α) :=
  tableOf anyName shape

def compound : Shape Fields
  | .obj fields => .valid fields
  | _ => .fail .table

def position : Shape BlockPos :=
  tuple 3 fun vs =>
    BlockPos.mk <$> component integer vs 0 <*> component integer vs 1 <*> component integer vs 2

def chunk : Shape Chunk :=
  tuple 2 fun vs => Chunk.mk <$> component integer vs 0 <*> component integer vs 1

def StackEntry.shape : Shape StackEntry :=
  Form.strict "StackModel" <|
    mk <$> .required "item" text
      <*> .optional "count" 1 integer
      <*> .optional "damage" 0 integer
      <*> .optional "tag" none (nullable compound)
      <*> .optional "energy" none (nullable integer)

def EntityEntry.shape : Shape EntityEntry :=
  Form.strict "BlockEntityModel" <|
    mk <$> .optional "items" none (nullable (listOf StackEntry.shape))
      <*> .optional "energy" none (nullable integer)
      <*> .optional "sides" none (nullable (listOf member))

def PlacedBlock.shape : Shape PlacedBlock :=
  Form.strict "PlacedBlockModel" <|
    mk <$> .required "pos" position
      <*> .required "block" text
      <*> .optional "properties" [] (namedTable text)
      <*> .optional "entity" none (nullable EntityEntry.shape)

def BiomeEntry.shape : Shape BiomeEntry :=
  Form.strict "BiomeModel" <|
    mk <$> .optional "id" "minecraft:plains" text <*> .optional "category" "plains" text

def RegistrySection.shape : Shape RegistrySection :=
  Form.strict "RegistryModel" <|
    mk <$> .optional "items" [] (listOf text)
      <*> .optional "blocks" [] (namedTable (namedTable (listOf text)))
      <*> .optional "biome_types" [] (namedTable (listOf text))

def WorldSection.shape : Shape WorldSection :=
  Form.strict "WorldModel" <|
    mk <$> .optional "dimension" "minecraft:overworld" text
      <*> .optional "day_time" (some 0) (nullable integer)
      <*> .optional "raining" false boolean
      <*> .optional "thundering" false boolean
      <*> .optional "difficulty" .normal member
      <*> .optional "spawn" ⟨0, 64, 0⟩ position
      <*> .optional "biome" {} BiomeEntry.shape
      <*> .optional "light" 15 integer
      <*> .optional "local_difficulty" (.ofRatio false 3 2) double
      <*> .optional "covered" [] (listOf position)
      <*> .optional "blocks" [] (listOf PlacedBlock.shape)
      <*> .optional "unloaded_chunks" [] (listOf chunk)
      <*> .optional "structures" [] (namedTable (listOf chunk))

def PlayerSection.shape : Shape PlayerSection :=
  Form.strict "PlayerModel" <|
    mk <$> .optional "name" "player" text
      <*> .optional "equipment" [] (tableOf memberOfText StackEntry.shape)
      <*> .optional "looking_at" none (nullable position)

def EventSection.shape : Shape EventSection :=
  Form.strict "EventModel" <|
    mk <$> .required "pos" position <*> .optional "block_pos" none (nullable position)

def IntegrationSection.shape : Shape IntegrationSection :=
  Form.strict "CompatModel" <|
    mk <$> .optional "capabilities" none (nullable (listOf member))
      <*> .optional "seasons" [] (namedTable member)
      <*> .optional "world_states" [] (namedTable text)
      <*> .optional "player_states" [] (namedTable (namedTable text))
      <*> .optional "game_stages" [] (namedTable (listOf text))
      <*> .optional "cities" [] (listOf chunk)
      <*> .optional "streets" [] (listOf chunk)
      <*> .optional "spheres" [] (listOf chunk)
      <*> .optional "buildings" [] (listOf chunk)
      <*> .optional "baubles" [] (namedTable (tableOf integerOfText StackEntry.shape))
      <*> .optional "biome_names" [] (namedTable text)

def Sections.shape : Shape Sections :=
  Form.strict "SnapshotModel" <|
    mk <$> .optional "registry" {} RegistrySection.shape
      <*> .optional "world" none (nullable WorldSection.shape)
      <*> .optional "player" none (nullable PlayerSection.shape)
      <*> .optional "event" none (nullable EventSection.shape)
      <*> .optional "compat" {} IntegrationSection.shape

end RuleGate.Snapshot
