import RasterOverlay.TileError

/-!
The level of a tile as a server counts it. An overlay may shift its levels by a bias, and no level
beyond the deepest supported one is ever asked for.
-/

namespace RasterOverlay.Level

/-- The deepest level at which a grid with two root columns has a count for its columns. -/
def deepest : UInt32 := 30

/-- The level after the bias, which has to be a level again. The sum of the two fits in 64 bits. -/
def biased (level : UInt32) (bias : Int32) : Except TileError UInt32 :=
  let sum := level.toUInt64.toInt64 + bias.toInt64
  if 0 ≤ sum ∧ sum ≤ 0xffffffff then .ok sum.toUInt64.toUInt32
  else .error (.negativeLevel level bias)

def check (tile : Tile) : Except TileError Unit :=
  if deepest < tile.level then .error (.outsideGrid tile) else .ok ()

end RasterOverlay.Level
