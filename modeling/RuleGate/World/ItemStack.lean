import RuleGate.Json.Value
import RuleGate.World.BlockState

/-!
# Item stacks

A stack is a number of items of one kind, with a damage value and optionally a tag and stored
energy. Air, and any stack of no items, is empty.
-/

namespace RuleGate

structure ItemStack where
  item : Text
  count : Int := 1
  damage : Int := 0
  tag : Option Fields := none
  energy : Option Int := none

namespace ItemStack

def empty : ItemStack := { item := air, count := 0 }

def isEmpty (s : ItemStack) : Bool :=
  s.item = air || s.count ≤ 0

def namespaceOf (s : ItemStack) : Text :=
  ResourceName.namespaceOf s.item

end ItemStack
end RuleGate
