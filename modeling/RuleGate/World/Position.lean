import RuleGate.World.ResourceName

/-!
# Positions and chunks

Positions are integer points of any size; a chunk is a column sixteen blocks wide in both
horizontal directions.
-/

namespace RuleGate

structure Chunk where
  x : Int
  z : Int
  deriving DecidableEq, Repr

structure BlockPos where
  x : Int
  y : Int
  z : Int
  deriving DecidableEq, Repr

namespace BlockPos

variable (p q : BlockPos)

def offset (dx dy dz : Int) : BlockPos :=
  ⟨p.x + dx, p.y + dy, p.z + dz⟩

/-- Division rounds toward minus infinity, so each chunk is sixteen wide also below zero. -/
def chunk : Chunk :=
  ⟨p.x.fdiv 16, p.z.fdiv 16⟩

def distSqr : Int :=
  (p.x - q.x) * (p.x - q.x) + (p.y - q.y) * (p.y - q.y) + (p.z - q.z) * (p.z - q.z)

end BlockPos
end RuleGate
