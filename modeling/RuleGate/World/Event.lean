import RuleGate.World.Basic

/-!
# Players and events

An event is what a rule is asked about. Each of its facts may be missing.
-/

namespace RuleGate

inductive EquipmentSlot
  | mainhand | offhand | head | chest | legs | feet
  deriving DecidableEq, Repr

instance : Named EquipmentSlot where
  all := [.mainhand, .offhand, .head, .chest, .legs, .feet]
  name
    | .mainhand => "mainhand"
    | .offhand => "offhand"
    | .head => "head"
    | .chest => "chest"
    | .legs => "legs"
    | .feet => "feet"

structure Player where
  name : Text := "player"
  equipment : Table EquipmentSlot ItemStack := []
  lookingAt : Option BlockPos := none

def Player.itemIn (p : Player) (slot : EquipmentSlot) : ItemStack :=
  (p.equipment.get? slot).getD .empty

def Player.equip (p : Player) (slot : EquipmentSlot) (stack : ItemStack) : Player :=
  { p with equipment := p.equipment.insert slot stack }

structure Event where
  world : Option World := none
  pos : Option BlockPos := none
  player : Option Player := none
  blockPos : Option BlockPos := none

namespace Event

variable (e : Event)

/-- The position of the block in question: that of the event, unless it has one of its own. -/
def targetPos : Option BlockPos :=
  e.blockPos <|> e.pos

def height : Option Int :=
  e.pos.map BlockPos.y

/-- World and position, if both are there. -/
def located : Option (World × BlockPos) :=
  match e.world, e.pos with
  | some w, some p => some (w, p)
  | _, _ => none

end Event
end RuleGate
