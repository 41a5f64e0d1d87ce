import Mathlib
import RasterOverlay.Proofs.TilePartition

/-!
Two successive levels over rational numbers. As long as the counts are not held, the lower level
halves each cell of the upper one in both directions, and a point of a half is a point of the whole.
So halving the indices of the tile under a position gives those of the tile one level up.
-/

namespace RasterOverlay

/-! ## One direction -/

namespace Axis

/-- The same interval with each cell cut in half. -/
def split (a : Axis) : Axis where
  first := a.first
  last := a.last
  count := 2 * a.count
  first_lt_last := a.first_lt_last
  count_pos := Nat.mul_pos Nat.two_pos a.count_pos

variable {a : Axis} {i j : ℕ} {x : ℚ}

theorem cellSize_split : a.split.cellSize = a.cellSize / 2 := by
  show (a.last - a.first) / ((2 * a.count : ℕ) : ℚ) = (a.last - a.first) / a.count / 2
  rw [div_div, mul_comm, Nat.cast_mul, Nat.cast_ofNat]

/-- The first half of a cell begins with it, and the second one in its middle. -/
theorem edge_split (i : ℕ) (second : Bool) :
    a.split.edge (2 * i + second.toNat) =
      if second then (a.edge i + (a.edge i + a.cellSize)) / 2 else a.edge i := by
  rw [edge, cellSize_split, edge]
  show a.first + _ = _
  cases second with
  | false =>
    rw [if_neg Bool.false_ne_true, Bool.toNat_false]
    push_cast
    ring
  | true =>
    rw [if_pos rfl, Bool.toNat_true]
    push_cast
    ring

/-- The second half of a cell ends with it, and the first one in its middle. -/
theorem far_edge_split (i : ℕ) (second : Bool) :
    a.split.edge (2 * i + second.toNat) + a.split.cellSize =
      if second then a.edge i + a.cellSize else (a.edge i + (a.edge i + a.cellSize)) / 2 := by
  rw [edge_split, cellSize_split]
  cases second with
  | false =>
    rw [if_neg Bool.false_ne_true, if_neg Bool.false_ne_true]
    ring
  | true =>
    rw [if_pos rfl, if_pos rfl]
    ring

/-- A point of a half is a point of the whole. -/
theorem InCell.of_split {second : Bool} (h : a.split.InCell (2 * i + second.toNat) x) :
    a.InCell i x := by
  have hsize : 0 < a.cellSize := cellSize_pos
  rw [InCell, far_edge_split, edge_split] at h
  obtain ⟨hnear, hfar⟩ := h
  have hcount : a.split.count = 2 * a.count := rfl
  cases second with
  | false =>
    rw [if_neg Bool.false_ne_true] at hnear hfar
    rw [Bool.toNat_false] at hfar
    -- a half that ends in the middle is followed by the other one
    rcases hfar with hlt | ⟨hlast, -⟩
    · exact ⟨hnear, .inl (by linarith)⟩
    · omega
  | true =>
    rw [if_pos rfl] at hnear hfar
    rw [Bool.toNat_true] at hfar
    have hbegun : a.edge i ≤ x := by linarith
    rcases hfar with hlt | ⟨hlast, hle⟩
    · exact ⟨hbegun, .inl hlt⟩
    · exact ⟨hbegun, .inr ⟨by omega, hle⟩⟩

end Axis

/-! ## Tiles -/

theorem exists_half (n : ℕ) : ∃ second : Bool, 2 * (n / 2) + second.toNat = n := by
  have h := Nat.bodd_add_div2 n
  rw [Nat.div2_val] at h
  exact ⟨n.bodd, by omega⟩

namespace Tile

/-- A quarter of a tile, one level down. -/
def child (t : Tile) (east north : Bool) : Tile where
  level := t.level + 1
  column := .ofNat (2 * t.column.toNat + east.toNat)
  row := .ofNat (2 * t.row.toNat + north.toNat)

theorem parent?_eq_some_iff (c t : Tile) :
    c.parent? = some t ↔ c.level ≠ 0 ∧ c.level = t.level + 1 ∧
      c.column.toNat / 2 = t.column.toNat ∧ c.row.toNat / 2 = t.row.toNat := by
  obtain ⟨level, column, row⟩ := t
  rw [parent?]
  by_cases hroot : c.level = 0
  · simp [hroot]
  · rw [if_neg hroot, Option.some.injEq, Tile.mk.injEq, UInt32.sub_eq_iff_eq_add,
      ← UInt32.toNat_inj (a := c.column / 2), ← UInt32.toNat_inj (a := c.row / 2),
      UInt32.toNat_div, UInt32.toNat_div]
    exact ⟨fun h => ⟨hroot, h⟩, fun h => h.2⟩

/-- The tiles with a parent are its quarters. -/
theorem eq_child_of_parent? {c t : Tile} (h : c.parent? = some t) :
    ∃ east north, c = t.child east north := by
  obtain ⟨-, hlevel, hcolumn, hrow⟩ := (parent?_eq_some_iff c t).mp h
  obtain ⟨east, heast⟩ := exists_half c.column.toNat
  obtain ⟨north, hnorth⟩ := exists_half c.row.toNat
  refine ⟨east, north, ?_⟩
  -- halving and doubling again loses only the bit that tells the halves apart
  obtain ⟨level, column, row⟩ := c
  rw [child, Tile.mk.injEq, ← hcolumn, ← hrow, heast, hnorth, UInt32.ofNat_toNat,
    UInt32.ofNat_toNat]
  exact ⟨hlevel, rfl, rfl⟩

end Tile

/-- A quarter of a rectangle, cut at its midpoints. -/
def Rectangle.quarter (r : Rectangle ℚ) (east north : Bool) : Rectangle ℚ where
  minX := if east then (r.minX + r.maxX) / 2 else r.minX
  minY := if north then (r.minY + r.maxY) / 2 else r.minY
  maxX := if east then r.maxX else (r.minX + r.maxX) / 2
  maxY := if north then r.maxY else (r.minY + r.maxY) / 2

/-! ## Grids -/

namespace Grid

/-- The counts of the level below are not held. -/
structure Splits {α : Type} (g : Grid α) (level : UInt32) : Prop where
  columns : g.rootColumns.toNat * 2 ^ (level.toNat + 1) < 2 ^ 32
  rows : g.rootRows.toNat * 2 ^ (level.toNat + 1) < 2 ^ 32

theorem toNat_level_succ {roots level : UInt32} (hroots : 0 < roots)
    (hfits : roots.toNat * 2 ^ (level.toNat + 1) < 2 ^ 32) :
    (level + 1).toNat = level.toNat + 1 := by
  have hpos : 0 < roots.toNat := UInt32.lt_iff_toNat_lt.mp hroots
  have hpow : 2 ^ (level.toNat + 1) < 2 ^ 32 := by
    calc 2 ^ (level.toNat + 1)
        ≤ roots.toNat * 2 ^ (level.toNat + 1) := Nat.le_mul_of_pos_left _ hpos
      _ < 2 ^ 32 := hfits
  have hlevel : level.toNat + 1 < 32 := (Nat.pow_lt_pow_iff_right (by decide)).mp hpow
  rw [UInt32.toNat_add, UInt32.toNat_one, Nat.mod_eq_of_lt (by omega)]

/-- A count that is not held is doubled by the next level. -/
theorem toNat_countAt_succ {roots level : UInt32} (hroots : 0 < roots)
    (hfits : roots.toNat * 2 ^ (level.toNat + 1) < 2 ^ 32) :
    (countAt roots (level + 1)).toNat = 2 * (countAt roots level).toNat := by
  have hdouble : roots.toNat * 2 ^ (level.toNat + 1) = 2 * (roots.toNat * 2 ^ level.toNat) := by
    rw [pow_succ]
    ring
  rw [toNat_countAt, toNat_countAt, toNat_level_succ hroots hfits]
  omega

section

variable {α : Type} {g : Grid α} {t c : Tile}

theorem Splits.toNat_columnsAt {level : UInt32} (h : g.Splits level) :
    (g.columnsAt (level + 1)).toNat = 2 * (g.columnsAt level).toNat :=
  toNat_countAt_succ g.rootColumns_pos h.columns

theorem Splits.toNat_rowsAt {level : UInt32} (h : g.Splits level) :
    (g.rowsAt (level + 1)).toNat = 2 * (g.rowsAt level).toNat :=
  toNat_countAt_succ g.rootRows_pos h.rows

theorem Splits.level_ne_zero {level : UInt32} (h : g.Splits level) : level + 1 ≠ 0 := by
  have hlevel := toNat_level_succ g.rootColumns_pos h.columns
  intro hzero
  rw [hzero, UInt32.toNat_zero] at hlevel
  omega

/-- The indices of a quarter fit in their words. -/
theorem Splits.toNat_child (h : g.Splits t.level) (hin : g.contains t = true) (east north : Bool) :
    (t.child east north).column.toNat = 2 * t.column.toNat + east.toNat ∧
      (t.child east north).row.toNat = 2 * t.row.toNat + north.toNat := by
  obtain ⟨hcolumn, hrow⟩ := (contains_iff _ _).mp hin
  -- a word holds the doubled count, and so each index below it
  have hcolumns := h.toNat_columnsAt
  have hrows := h.toNat_rowsAt
  have hcolumnsWord := (g.columnsAt (t.level + 1)).toNat_lt
  have hrowsWord := (g.rowsAt (t.level + 1)).toNat_lt
  have heast := east.toNat_lt
  have hnorth := north.toNat_lt
  constructor
  · exact UInt32.toNat_ofNat_of_lt' (by rw [UInt32.size]; omega)
  · exact UInt32.toNat_ofNat_of_lt' (by rw [UInt32.size]; omega)

theorem Splits.parent?_child (h : g.Splits t.level) (hin : g.contains t = true)
    (east north : Bool) : (t.child east north).parent? = some t := by
  obtain ⟨hcolumn, hrow⟩ := h.toNat_child hin east north
  have heast := east.toNat_lt
  have hnorth := north.toNat_lt
  refine (Tile.parent?_eq_some_iff _ _).mpr ⟨h.level_ne_zero, rfl, ?_, ?_⟩
  · omega
  · omega

/-- A tile lies in the grid exactly if its parent does. -/
theorem Splits.contains_iff_of_parent? (h : g.Splits t.level) (hparent : c.parent? = some t) :
    g.contains c = true ↔ g.contains t = true := by
  obtain ⟨-, hlevel, hcolumn, hrow⟩ := (Tile.parent?_eq_some_iff c t).mp hparent
  rw [contains_iff, contains_iff, hlevel, h.toNat_columnsAt, h.toNat_rowsAt, ← hcolumn, ← hrow]
  omega

/-- The tiles of the grid that have this parent. -/
def childrenOf (g : Grid α) (t : Tile) : Set Tile :=
  {c | c.level = t.level + 1 ∧ g.contains c = true ∧ c.parent? = some t}

theorem Splits.childrenOf_eq (h : g.Splits t.level) (hin : g.contains t = true) :
    g.childrenOf t = Set.range fun s : Bool × Bool => t.child s.1 s.2 := by
  ext c
  constructor
  · rintro ⟨-, -, hparent⟩
    obtain ⟨east, north, hc⟩ := Tile.eq_child_of_parent? hparent
    exact ⟨(east, north), hc.symm⟩
  · rintro ⟨⟨east, north⟩, rfl⟩
    have hparent := h.parent?_child hin east north
    exact ⟨rfl, (h.contains_iff_of_parent? hparent).mpr hin, hparent⟩

theorem Splits.child_injective (h : g.Splits t.level) (hin : g.contains t = true) :
    Function.Injective fun s : Bool × Bool => t.child s.1 s.2 := by
  rintro ⟨east, north⟩ ⟨east', north'⟩ heq
  obtain ⟨hcolumn, hrow⟩ := h.toNat_child hin east north
  obtain ⟨hcolumn', hrow'⟩ := h.toNat_child hin east' north'
  have heq : t.child east north = t.child east' north' := heq
  rw [heq, hcolumn'] at hcolumn
  rw [heq, hrow'] at hrow
  have heast : east.toNat = east'.toNat := by omega
  have hnorth : north.toNat = north'.toNat := by omega
  have hbit : Function.Injective Bool.toNat := by decide
  exact Prod.ext (hbit heast) (hbit hnorth)

theorem Splits.ncard_childrenOf (h : g.Splits t.level) (hin : g.contains t = true) :
    (g.childrenOf t).ncard = 4 := by
  rw [h.childrenOf_eq hin, Set.ncard_range_of_injective (h.child_injective hin), Nat.card_prod,
    Nat.card_eq_fintype_card, Fintype.card_bool]

end

section

variable {g : Grid ℚ} {t c : Tile} {x y : ℚ}

theorem Splits.columnAxis_succ {level : UInt32} (h : g.Splits level)
    (hx : g.extent.minX < g.extent.maxX) :
    g.columnAxis hx (level + 1) = (g.columnAxis hx level).split :=
  Axis.ext rfl rfl h.toNat_columnsAt

theorem Splits.rowAxis_succ {level : UInt32} (h : g.Splits level)
    (hy : g.extent.minY < g.extent.maxY) :
    g.rowAxis hy (level + 1) = (g.rowAxis hy level).split :=
  Axis.ext rfl rfl h.toNat_rowsAt

variable (hx : g.extent.minX < g.extent.maxX) (hy : g.extent.minY < g.extent.maxY)

theorem cell_eq (t : Tile) :
    g.cell t =
      ⟨(g.columnAxis hx t.level).edge t.column.toNat, (g.rowAxis hy t.level).edge t.row.toNat,
        (g.columnAxis hx t.level).edge t.column.toNat + (g.columnAxis hx t.level).cellSize,
        (g.rowAxis hy t.level).edge t.row.toNat + (g.rowAxis hy t.level).cellSize⟩ := rfl

include hx hy

theorem cell_nonempty (t : Tile) :
    (g.cell t).minX < (g.cell t).maxX ∧ (g.cell t).minY < (g.cell t).maxY := by
  rw [cell_eq hx hy]
  exact ⟨lt_add_of_pos_right _ (g.columnAxis hx t.level).cellSize_pos,
    lt_add_of_pos_right _ (g.rowAxis hy t.level).cellSize_pos⟩

theorem Splits.cell_child (h : g.Splits t.level) (hin : g.contains t = true) (east north : Bool) :
    g.cell (t.child east north) = (g.cell t).quarter east north := by
  obtain ⟨hcolumn, hrow⟩ := h.toNat_child hin east north
  have hlevel : (t.child east north).level = t.level + 1 := rfl
  rw [cell_eq hx hy, cell_eq hx hy t, hlevel, h.columnAxis_succ, h.rowAxis_succ, hcolumn, hrow,
    Axis.far_edge_split, Axis.far_edge_split, Axis.edge_split, Axis.edge_split]
  rfl

/-- A position that belongs to a quarter belongs to the whole tile. -/
theorem Splits.covers_of_parent? (h : g.Splits t.level) (hparent : c.parent? = some t)
    (hin : g.contains t = true) (hcovers : g.Covers c x y) : g.Covers t x y := by
  obtain ⟨east, north, rfl⟩ := Tile.eq_child_of_parent? hparent
  obtain ⟨hcolumn, hrow⟩ := h.toNat_child hin east north
  have hlevel : (t.child east north).level = t.level + 1 := rfl
  rw [covers_iff hx hy, hlevel, h.columnAxis_succ, h.rowAxis_succ, hcolumn, hrow] at hcovers
  exact (covers_iff hx hy t x y).mpr ⟨hcovers.1.of_split, hcovers.2.of_split⟩

end

end Grid

/-- Over rational numbers two successive levels whose counts are not held form a quadtree. The tile
under a position has the one of the level above it as its parent. A tile of the grid has a cell with
an inside, and it is the parent of four tiles of the grid, whose cells are the quarters of its
own. -/
theorem levels_form_quadtree (g : Grid ℚ) (hx : g.extent.minX < g.extent.maxX)
    (hy : g.extent.minY < g.extent.maxY) (level : UInt32)
    (hcolumns : g.rootColumns.toNat * 2 ^ (level.toNat + 1) < 2 ^ 32)
    (hrows : g.rootRows.toNat * 2 ^ (level.toNat + 1) < 2 ^ 32) :
    (∀ x y, g.extent.contains x y = true →
      ∃ c t, g.tileAt? x y (level + 1) = some c ∧ g.tileAt? x y level = some t ∧
        c.parent? = some t) ∧
    ∀ t, t.level = level → g.contains t = true →
      ((g.cell t).minX < (g.cell t).maxX ∧ (g.cell t).minY < (g.cell t).maxY) ∧
      (g.childrenOf t).ncard = 4 ∧
      g.childrenOf t = Set.range (fun s : Bool × Bool => t.child s.1 s.2) ∧
      ∀ east north, g.cell (t.child east north) = (g.cell t).quarter east north := by
  constructor
  · intro x y hinside
    have hsplits : g.Splits level := ⟨hcolumns, hrows⟩
    obtain ⟨c, hc⟩ := Grid.exists_tileAt? hinside (level + 1)
    obtain ⟨hlevel, hin, hcovers⟩ := (Grid.tileAt?_eq_some_iff hx hy x y _ c).mp hc
    -- the position belongs to the parent, and so the parent is the tile that is found above
    have hparent : c.parent? = some ⟨level, c.column / 2, c.row / 2⟩ := by
      rw [Tile.parent?_eq_some_iff, hlevel, UInt32.toNat_div, UInt32.toNat_div]
      exact ⟨hsplits.level_ne_zero, rfl, rfl, rfl⟩
    have hinParent := (hsplits.contains_iff_of_parent? hparent).mp hin
    have hcoversParent := hsplits.covers_of_parent? hx hy hparent hinParent hcovers
    exact ⟨c, _, hc,
      (Grid.tileAt?_eq_some_iff hx hy x y level _).mpr ⟨rfl, hinParent, hcoversParent⟩, hparent⟩
  · rintro t rfl hin
    have hsplits : g.Splits t.level := ⟨hcolumns, hrows⟩
    exact ⟨Grid.cell_nonempty hx hy t, hsplits.ncard_childrenOf hin, hsplits.childrenOf_eq hin,
      hsplits.cell_child hx hy hin⟩

/-- Three root columns can be halved thirty times before their count is held: the tiles under the far
corner, and the last tile of the first row with its south-east quarter. -/
theorem levels_form_quadtree_of_three_roots :
    let g : Grid ℚ := .ofRoots ⟨0, 0, 3, 1⟩ 3 1
    let t : Tile := ⟨29, 1610612735, 0⟩
    (g.tileAt? 3 1 30 = some ⟨30, 3221225471, 1073741823⟩ ∧
      g.tileAt? 3 1 29 = some ⟨29, 1610612735, 536870911⟩ ∧
      Tile.parent? ⟨30, 3221225471, 1073741823⟩ = some ⟨29, 1610612735, 536870911⟩) ∧
    (g.childrenOf t).ncard = 4 ∧
    g.cell t = ⟨1610612735 / 2 ^ 29, 0, 3, 1 / 2 ^ 29⟩ ∧
    t.child true false = ⟨30, 3221225471, 0⟩ ∧
    g.cell (t.child true false) = ⟨3221225471 / 2 ^ 30, 0, 3, 1 / 2 ^ 30⟩ := by
  intro g t
  obtain ⟨hparents, htiles⟩ :=
    levels_form_quadtree g (by decide +kernel) (by decide +kernel) 29 (by decide +kernel)
      (by decide +kernel)
  have hbelow : g.tileAt? 3 1 30 = some ⟨30, 3221225471, 1073741823⟩ := by decide +kernel
  have habove : g.tileAt? 3 1 29 = some ⟨29, 1610612735, 536870911⟩ := by decide +kernel
  obtain ⟨c, p, hc, hp, hparent⟩ := hparents 3 1 (by decide +kernel)
  cases hbelow.symm.trans hc
  cases habove.symm.trans hp
  obtain ⟨-, hfour, -, hquarter⟩ := htiles t rfl (by decide +kernel)
  have hcell : g.cell t = ⟨1610612735 / 2 ^ 29, 0, 3, 1 / 2 ^ 29⟩ := by
    rw [Grid.cell, Rectangle.mk.injEq]
    decide +kernel
  refine ⟨⟨hbelow, habove, hparent⟩, hfour, hcell, by decide, ?_⟩
  rw [hquarter true false, hcell, Rectangle.quarter, Rectangle.mk.injEq]
  decide +kernel

end RasterOverlay
