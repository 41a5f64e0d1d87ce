import RasterOverlay.Tile

/-!
The geometry of a tile pyramid over a rectangle. The formulas use only the four operations, the
order and the two casts of `Coordinate`, so they are the same definitions for doubles, which the
program runs on, and for any other numbers that they are studied on.
-/

namespace RasterOverlay

/-- Numbers that measure a projected plane. -/
class Coordinate (α : Type) extends Add α, Sub α, Mul α, Div α where
  /-- The order of the numbers. -/
  atMost : α → α → Bool
  /-- A count as a number. -/
  ofCount : UInt32 → α
  /-- The whole part of a number, held between zero and the greatest count. -/
  wholePart : α → UInt32

instance : Coordinate Float where
  atMost x y := x ≤ y
  ofCount n := n.toFloat
  wholePart x := x.toUInt32

structure Rectangle (α : Type) where
  minX : α
  minY : α
  maxX : α
  maxY : α

namespace Rectangle

variable {α : Type} [Coordinate α]

def width (r : Rectangle α) : α := r.maxX - r.minX

def height (r : Rectangle α) : α := r.maxY - r.minY

/-- The edges belong to the rectangle. -/
def contains (r : Rectangle α) (x y : α) : Bool :=
  Coordinate.atMost r.minX x && Coordinate.atMost x r.maxX &&
    Coordinate.atMost r.minY y && Coordinate.atMost y r.maxY

end Rectangle

/-- A rectangle cut into root tiles, at least one in each direction. -/
structure Grid (α : Type) where
  extent : Rectangle α
  rootColumns : UInt32
  rootRows : UInt32
  rootColumns_pos : 0 < rootColumns
  rootRows_pos : 0 < rootRows

namespace Grid

/-- A count of root tiles, where zero stands for one. -/
def atLeastOne (n : UInt32) : UInt32 := if n = 0 then 1 else n

theorem atLeastOne_pos (n : UInt32) : 0 < atLeastOne n := by
  unfold atLeastOne
  split
  · decide
  · rename_i h
    rw [UInt32.lt_iff_toNat_lt]
    have : n.toNat ≠ 0 := fun h0 => h (UInt32.toNat_inj.1 h0)
    simp only [UInt32.toNat_zero]
    omega

variable {α : Type}

/-- The grid of a rectangle; a count of zero is raised to one. -/
def ofRoots (extent : Rectangle α) (columns rows : UInt32) : Grid α where
  extent := extent
  rootColumns := atLeastOne columns
  rootRows := atLeastOne rows
  rootColumns_pos := atLeastOne_pos columns
  rootRows_pos := atLeastOne_pos rows

/-- The greatest count of tiles in one direction. -/
def greatestCount : UInt32 := 0xffffffff

/-- The number of tiles in one direction: the root tiles doubled once for each level, held to the
greatest count. A level beyond 32 doubles a count that is already held. -/
def countAt (roots level : UInt32) : UInt32 :=
  let doubled := roots.toUInt64 <<< (min level 32).toUInt64
  if doubled ≤ greatestCount.toUInt64 then doubled.toUInt32 else greatestCount

def columnsAt (g : Grid α) (level : UInt32) : UInt32 := countAt g.rootColumns level

def rowsAt (g : Grid α) (level : UInt32) : UInt32 := countAt g.rootRows level

/-- Whether the tile addresses a cell of the grid. -/
def contains (g : Grid α) (t : Tile) : Bool :=
  t.column < g.columnsAt t.level && t.row < g.rowsAt t.level

variable [Coordinate α]

def cellWidth (g : Grid α) (level : UInt32) : α :=
  g.extent.width / Coordinate.ofCount (g.columnsAt level)

def cellHeight (g : Grid α) (level : UInt32) : α :=
  g.extent.height / Coordinate.ofCount (g.rowsAt level)

/-- The extent of a tile. -/
def cell (g : Grid α) (t : Tile) : Rectangle α :=
  let width := g.cellWidth t.level
  let height := g.cellHeight t.level
  let minX := g.extent.minX + Coordinate.ofCount t.column * width
  let minY := g.extent.minY + Coordinate.ofCount t.row * height
  ⟨minX, minY, minX + width, minY + height⟩

/-- The index of the cell that a distance from the first edge falls into. A position on the far
edge belongs to the last cell. -/
def cellIndex (distance cellSize : α) (count : UInt32) : UInt32 :=
  min (Coordinate.wholePart (distance / cellSize)) (count - 1)

/-- The tile of a level that covers a position of the rectangle. -/
def tileAt? (g : Grid α) (x y : α) (level : UInt32) : Option Tile :=
  if g.extent.contains x y then
    some ⟨level,
      cellIndex (x - g.extent.minX) (g.cellWidth level) (g.columnsAt level),
      cellIndex (y - g.extent.minY) (g.cellHeight level) (g.rowsAt level)⟩
  else none

end Grid

end RasterOverlay
