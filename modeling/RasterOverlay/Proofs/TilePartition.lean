import Mathlib
import RasterOverlay.Proofs.TilesUnderPositions

/-!
The cells of a level over rational numbers. The two directions are independent, and each cuts an
interval into equal cells that hold their near edge; only the last one holds its far edge too. So
every point of the interval lies in one cell, which is the one that the quotient finds.
-/

namespace RasterOverlay

/-! ## One direction -/

theorem le_of_lt_or_last {last : Prop} {x far : ℚ} (h : x < far ∨ last ∧ x ≤ far) : x ≤ far := by
  rcases h with hlt | ⟨-, hle⟩
  · exact hlt.le
  · exact hle

/-- An interval that is cut into equal cells. -/
@[ext]
structure Axis where
  first : ℚ
  last : ℚ
  count : ℕ
  first_lt_last : first < last
  count_pos : 0 < count

namespace Axis

variable (a : Axis)

def cellSize : ℚ := (a.last - a.first) / a.count

/-- The near edge of a cell. -/
def edge (i : ℕ) : ℚ := a.first + i * a.cellSize

/-- A point of a cell, whose far edge belongs to it only if no cell follows. -/
def InCell (i : ℕ) (x : ℚ) : Prop :=
  a.edge i ≤ x ∧ (x < a.edge i + a.cellSize ∨ i + 1 = a.count ∧ x ≤ a.edge i + a.cellSize)

/-- The cell that the quotient finds. -/
def index (x : ℚ) : ℕ := min ⌊(x - a.first) / a.cellSize⌋₊ (a.count - 1)

variable {a : Axis} {i j : ℕ} {x : ℚ}

theorem cellSize_pos : 0 < a.cellSize :=
  div_pos (sub_pos.mpr a.first_lt_last) (Nat.cast_pos.mpr a.count_pos)

theorem edge_succ (i : ℕ) : a.edge (i + 1) = a.edge i + a.cellSize := by
  rw [edge, edge]
  push_cast
  ring

theorem edge_zero : a.edge 0 = a.first := by
  rw [edge, Nat.cast_zero, zero_mul, add_zero]

theorem edge_count : a.edge a.count = a.last := by
  have hcount : (a.count : ℚ) ≠ 0 := Nat.cast_ne_zero.mpr a.count_pos.ne'
  rw [edge, cellSize, mul_div_cancel₀ _ hcount]
  ring

theorem edge_mono (h : i ≤ j) : a.edge i ≤ a.edge j := by
  have hmul : (i : ℚ) * a.cellSize ≤ j * a.cellSize :=
    mul_le_mul_of_nonneg_right (Nat.cast_le.mpr h) cellSize_pos.le
  rw [edge, edge]
  linarith

/-- A cell lies in the interval. -/
theorem InCell.mem (h : a.InCell i x) (hi : i < a.count) : a.first ≤ x ∧ x ≤ a.last := by
  constructor
  · calc a.first = a.edge 0 := edge_zero.symm
      _ ≤ a.edge i := edge_mono (Nat.zero_le i)
      _ ≤ x := h.1
  · calc x ≤ a.edge i + a.cellSize := le_of_lt_or_last h.2
      _ = a.edge (i + 1) := (edge_succ i).symm
      _ ≤ a.edge a.count := edge_mono hi
      _ = a.last := edge_count

/-- A point of a later cell has passed the far edge of an earlier one. -/
theorem not_inCell_of_lt (hij : i < j) (hj : j < a.count) (h : a.InCell j x) : ¬ a.InCell i x := by
  have hpassed : a.edge i + a.cellSize ≤ x := by
    calc a.edge i + a.cellSize = a.edge (i + 1) := (edge_succ i).symm
      _ ≤ a.edge j := edge_mono hij
      _ ≤ x := h.1
  rintro ⟨-, hlt | ⟨hlast, -⟩⟩
  · exact absurd hlt (not_lt.mpr hpassed)
  · omega

theorem InCell.unique (hi : i < a.count) (hj : j < a.count) (h : a.InCell i x)
    (h' : a.InCell j x) : i = j := by
  rcases lt_trichotomy i j with hlt | heq | hgt
  · exact absurd h (not_inCell_of_lt hlt hj h')
  · exact heq
  · exact absurd h' (not_inCell_of_lt hgt hi h)

/-- The near edge of a cell is a point of it. -/
theorem inCell_edge (i : ℕ) : a.InCell i (a.edge i) :=
  ⟨le_rfl, .inl (lt_add_of_pos_right _ cellSize_pos)⟩

theorem index_lt : a.index x < a.count := by
  have hcount := a.count_pos
  rw [index]
  omega

theorem inCell_index (hfirst : a.first ≤ x) (hlast : x ≤ a.last) : a.InCell (a.index x) x := by
  have hsize : 0 < a.cellSize := cellSize_pos
  obtain ⟨quotient, hquotient⟩ : ∃ q, (x - a.first) / a.cellSize = q := ⟨_, rfl⟩
  have hx : x = a.first + quotient * a.cellSize := by
    rw [← hquotient, div_mul_cancel₀ _ hsize.ne', add_sub_cancel]
  have hnonneg : 0 ≤ quotient := by
    rw [← hquotient]
    exact div_nonneg (sub_nonneg.mpr hfirst) hsize.le
  have hcount := a.count_pos
  rw [index, hquotient]
  by_cases hwhole : ⌊quotient⌋₊ < a.count
  · -- the whole part of the quotient is the index itself
    rw [Nat.min_eq_left (by omega)]
    have hbelow : (⌊quotient⌋₊ : ℚ) * a.cellSize ≤ quotient * a.cellSize :=
      mul_le_mul_of_nonneg_right (Nat.floor_le hnonneg) hsize.le
    have habove : quotient * a.cellSize < (⌊quotient⌋₊ + 1) * a.cellSize :=
      mul_lt_mul_of_pos_right (Nat.lt_floor_add_one quotient) hsize
    constructor
    · rw [edge]
      linarith
    · left
      rw [edge]
      linarith
  · -- the point is the far edge of the interval, which the last cell holds
    rw [Nat.min_eq_right (by omega)]
    have hend : a.edge (a.count - 1) + a.cellSize = a.last := by
      rw [← edge_succ, Nat.sub_add_cancel hcount, edge_count]
    have hreached : (a.count : ℚ) ≤ quotient := by
      calc (a.count : ℚ) ≤ ⌊quotient⌋₊ := Nat.cast_le.mpr (Nat.le_of_not_lt hwhole)
        _ ≤ quotient := Nat.floor_le hnonneg
    have hfar : a.last ≤ x := by
      calc a.last = a.first + a.count * a.cellSize := edge_count.symm
        _ ≤ a.first + quotient * a.cellSize := by
          have := mul_le_mul_of_nonneg_right hreached hsize.le
          linarith
        _ = x := hx.symm
    constructor
    · linarith
    · right
      exact ⟨Nat.sub_add_cancel hcount, by linarith⟩

/-- The quotient finds the one cell that a point lies in. -/
theorem index_eq (hi : i < a.count) (h : a.InCell i x) : a.index x = i := by
  obtain ⟨hfirst, hlast⟩ := h.mem hi
  exact InCell.unique index_lt hi (inCell_index hfirst hlast) h

end Axis

/-! ## Both directions -/

/-- Exact numbers. The cast drops the fraction and holds what is left in a word. -/
instance : Coordinate ℚ where
  atMost x y := decide (x ≤ y)
  ofCount n := n.toNat
  wholePart x := UInt32.ofNatClamp ⌊x⌋₊

theorem Rectangle.contains_rat_iff (r : Rectangle ℚ) (x y : ℚ) :
    r.contains x y = true ↔ (r.minX ≤ x ∧ x ≤ r.maxX) ∧ r.minY ≤ y ∧ y ≤ r.maxY := by
  simp only [contains, Coordinate.atMost, Bool.and_eq_true, decide_eq_true_eq, and_assoc]

theorem toNat_ofNatClamp (n : ℕ) : (UInt32.ofNatClamp n).toNat = min n (2 ^ 32 - 1) := by
  by_cases h : n < UInt32.size
  · rw [UInt32.toNat_ofNatClamp_of_lt h]
    exact (Nat.min_eq_left (Nat.le_pred_of_lt h)).symm
  · have hle : UInt32.size ≤ n := Nat.le_of_not_lt h
    rw [UInt32.toNat_ofNatClamp_of_le hle]
    exact (Nat.min_eq_right (le_trans (Nat.sub_le _ _) hle)).symm

namespace Grid

/-- A word holds every index, since it holds the count. -/
theorem toNat_cellIndex_eq_index {a : Axis} {count : UInt32} (h : a.count = count.toNat) (x : ℚ) :
    (cellIndex (x - a.first) a.cellSize count).toNat = a.index x := by
  have hcount := a.count_pos
  have hword := count.toNat_lt
  have hone : 1 ≤ count := by
    rw [UInt32.le_iff_toNat_le, UInt32.toNat_one]
    omega
  rw [toNat_cellIndex _ _ hone, Axis.index, h]
  show min (UInt32.ofNatClamp ⌊(x - a.first) / a.cellSize⌋₊).toNat _ = _
  rw [toNat_ofNatClamp]
  -- the last index is below the greatest word, so that word is never the least of the three
  omega

variable (g : Grid ℚ)

/-- A position belongs to a tile if it lies in the cell, whose near edges are its own and whose far
edges are only where no tile follows. -/
structure Covers (t : Tile) (x y : ℚ) : Prop where
  west : (g.cell t).minX ≤ x
  south : (g.cell t).minY ≤ y
  east : x < (g.cell t).maxX ∨
    t.column.toNat + 1 = (g.columnsAt t.level).toNat ∧ x ≤ (g.cell t).maxX
  north : y < (g.cell t).maxY ∨
    t.row.toNat + 1 = (g.rowsAt t.level).toNat ∧ y ≤ (g.cell t).maxY

theorem Covers.mem_cell {g : Grid ℚ} {t : Tile} {x y : ℚ} (h : g.Covers t x y) :
    (g.cell t).contains x y = true :=
  (Rectangle.contains_rat_iff _ _ _).mpr
    ⟨⟨h.west, le_of_lt_or_last h.east⟩, h.south, le_of_lt_or_last h.north⟩

section

variable (hx : g.extent.minX < g.extent.maxX) (hy : g.extent.minY < g.extent.maxY) (level : UInt32)

/-- The columns of a level. -/
def columnAxis : Axis where
  first := g.extent.minX
  last := g.extent.maxX
  count := (g.columnsAt level).toNat
  first_lt_last := hx
  count_pos := UInt32.le_iff_toNat_le.mp (Exact.one_le_countAt g.rootColumns_pos level)

/-- The rows of a level. -/
def rowAxis : Axis where
  first := g.extent.minY
  last := g.extent.maxY
  count := (g.rowsAt level).toNat
  first_lt_last := hy
  count_pos := UInt32.le_iff_toNat_le.mp (Exact.one_le_countAt g.rootRows_pos level)

end

variable {g} (hx : g.extent.minX < g.extent.maxX) (hy : g.extent.minY < g.extent.maxY)

theorem covers_iff (t : Tile) (x y : ℚ) :
    g.Covers t x y ↔ (g.columnAxis hx t.level).InCell t.column.toNat x ∧
      (g.rowAxis hy t.level).InCell t.row.toNat y := by
  constructor
  · intro h
    exact ⟨⟨h.west, h.east⟩, h.south, h.north⟩
  · rintro ⟨⟨hwest, heast⟩, hsouth, hnorth⟩
    exact ⟨hwest, hsouth, heast, hnorth⟩

include hx hy

/-- The south-western corner of a cell belongs to its tile. -/
theorem covers_corner (t : Tile) : g.Covers t (g.cell t).minX (g.cell t).minY :=
  (covers_iff hx hy t _ _).mpr ⟨Axis.inCell_edge _, Axis.inCell_edge _⟩

/-- The tile under a position is the one that it belongs to. -/
theorem tileAt?_eq_some_iff (x y : ℚ) (level : UInt32) (t : Tile) :
    g.tileAt? x y level = some t ↔
      t.level = level ∧ g.contains t = true ∧ g.Covers t x y := by
  have hcolumn : (cellIndex (x - g.extent.minX) (g.cellWidth level) (g.columnsAt level)).toNat =
      (g.columnAxis hx level).index x :=
    toNat_cellIndex_eq_index (a := g.columnAxis hx level) rfl x
  have hrow : (cellIndex (y - g.extent.minY) (g.cellHeight level) (g.rowsAt level)).toNat =
      (g.rowAxis hy level).index y :=
    toNat_cellIndex_eq_index (a := g.rowAxis hy level) rfl y
  constructor
  · intro h
    obtain ⟨hlevel, hin⟩ := contains_of_tileAt? h
    have hinside := extent_contains_of_tileAt? h
    obtain ⟨⟨hwest, heast⟩, hsouth, hnorth⟩ := (Rectangle.contains_rat_iff _ _ _).mp hinside
    refine ⟨hlevel, hin, ?_⟩
    rw [g.tileAt?_of_contains x y level hinside, Option.some.injEq] at h
    rw [covers_iff hx hy, ← h]
    dsimp only
    rw [hcolumn, hrow]
    exact ⟨Axis.inCell_index hwest heast, Axis.inCell_index hsouth hnorth⟩
  · rintro ⟨rfl, hin, hcovers⟩
    obtain ⟨hcolumnLt, hrowLt⟩ := (contains_iff _ _).mp hin
    obtain ⟨hcolumnCell, hrowCell⟩ := (covers_iff hx hy t x y).mp hcovers
    have hinside : g.extent.contains x y = true :=
      (Rectangle.contains_rat_iff _ _ _).mpr ⟨hcolumnCell.mem hcolumnLt, hrowCell.mem hrowLt⟩
    -- the cell that the quotient finds is the only one that the position lies in
    have hcolumnEq := UInt32.toNat_inj.mp (hcolumn.trans (Axis.index_eq hcolumnLt hcolumnCell))
    have hrowEq := UInt32.toNat_inj.mp (hrow.trans (Axis.index_eq hrowLt hrowCell))
    rw [g.tileAt?_of_contains x y t.level hinside]
    exact congrArg₂ (fun column row => some (Tile.mk t.level column row)) hcolumnEq hrowEq

end Grid

/-- Over rational numbers the tiles of a level cover the rectangle of the grid without gap or
overlap. A position lies in the cell of the tile under it, and that tile is the only one of the
level that it belongs to; no position outside belongs to a tile. From the corner of a cell that is
its own its tile is found again. -/
theorem tiles_partition_extent (g : Grid ℚ) (hx : g.extent.minX < g.extent.maxX)
    (hy : g.extent.minY < g.extent.maxY) (level : UInt32) :
    (∀ x y, g.extent.contains x y = true →
      ∃ t, g.tileAt? x y level = some t ∧ (g.cell t).contains x y = true ∧
        ∀ t', (t'.level = level ∧ g.contains t' = true ∧ g.Covers t' x y) ↔ t' = t) ∧
    (∀ t x y, t.level = level → g.contains t = true → g.Covers t x y →
      g.extent.contains x y = true) ∧
    ∀ t, t.level = level → g.contains t = true →
      g.tileAt? (g.cell t).minX (g.cell t).minY level = some t := by
  refine ⟨?_, ?_, ?_⟩
  · intro x y hinside
    obtain ⟨t, ht⟩ := Grid.exists_tileAt? hinside level
    obtain ⟨-, -, hcovers⟩ := (Grid.tileAt?_eq_some_iff hx hy x y level t).mp ht
    refine ⟨t, ht, hcovers.mem_cell, ?_⟩
    intro t'
    rw [← Grid.tileAt?_eq_some_iff hx hy, ht, Option.some.injEq]
    exact eq_comm
  · intro t x y hlevel hin hcovers
    exact Grid.extent_contains_of_tileAt?
      ((Grid.tileAt?_eq_some_iff hx hy x y level t).mpr ⟨hlevel, hin, hcovers⟩)
  · intro t hlevel hin
    exact (Grid.tileAt?_eq_some_iff hx hy _ _ level t).mpr
      ⟨hlevel, hin, Grid.covers_corner hx hy t⟩

/-- The far corner belongs to the last tile, also where the count of tiles is held. -/
theorem tiles_partition_extent_at_the_corner :
    (Grid.ofRoots (⟨0, 0, 3, 1⟩ : Rectangle ℚ) 3 1).tileAt? 3 1 40 =
      some ⟨40, 4294967294, 4294967294⟩ ∧
    ∀ t, (t.level = 40 ∧ (Grid.ofRoots (⟨0, 0, 3, 1⟩ : Rectangle ℚ) 3 1).contains t = true ∧
      (Grid.ofRoots (⟨0, 0, 3, 1⟩ : Rectangle ℚ) 3 1).Covers t 3 1) ↔
        t = ⟨40, 4294967294, 4294967294⟩ := by
  obtain ⟨t, ht, -, hunique⟩ :=
    (tiles_partition_extent (Grid.ofRoots ⟨0, 0, 3, 1⟩ 3 1) (by decide +kernel)
      (by decide +kernel) 40).1 3 1 (by decide +kernel)
  have hlast : (Grid.ofRoots (⟨0, 0, 3, 1⟩ : Rectangle ℚ) 3 1).tileAt? 3 1 40 =
      some ⟨40, 4294967294, 4294967294⟩ := by decide +kernel
  cases ht.symm.trans hlast
  exact ⟨hlast, hunique⟩

end RasterOverlay
