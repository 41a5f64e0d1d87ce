import RasterOverlay.Text.Digits

/-!
Tiles of a pyramid. A tile is addressed by its level, its column counted from the west and its row
counted from the south; each level halves the tiles of the one above it.
-/

namespace RasterOverlay

structure Tile where
  level : UInt32
  column : UInt32
  row : UInt32
  deriving DecidableEq, Ord

namespace Tile

/-- The tile one level up that holds this one; a tile of level zero has none. -/
def parent? (t : Tile) : Option Tile :=
  if t.level = 0 then none else some ⟨t.level - 1, t.column / 2, t.row / 2⟩

/-- At most `limit` successive parents, the nearest first. -/
def ancestors (limit : Nat) (t : Tile) : List Tile :=
  match limit, t.parent? with
  | 0, _ => []
  | _, none => []
  | limit + 1, some p => p :: p.ancestors limit

/-- Tiles by level, then column, then row. -/
def sort (tiles : List Tile) : List Tile := tiles.mergeSort fun a b => (compare a b).isLE

def describe (t : Tile) : String :=
  "L" ++ Text.ofNat t.level.toNat ++ " x=" ++ Text.ofNat t.column.toNat ++
    " y=" ++ Text.ofNat t.row.toNat

end Tile

/-- A row counted from the other edge of a matrix with this many rows. -/
def invertRow (rows row : UInt32) : Option UInt32 :=
  if row < rows then some (rows - row - 1) else none

end RasterOverlay
