import Mathlib
import RasterOverlay.Proofs.ExactIndices
import RasterOverlay.Proofs.ServiceUrl
import RasterOverlay.Proofs.TemplateUrl

/-!
The tile under a position. Its indices come from a quotient of numbers that may be rounded in any
way, and need not even be numbers; they are held to the last cell, and so the tile is one of the
grid. None of the range checks on the way to its URL then refuses it.
-/

namespace RasterOverlay

theorem toNat_min (a b : UInt32) : (min a b).toNat = min a.toNat b.toNat := by
  have hle : a ≤ b ↔ a.toNat ≤ b.toNat := UInt32.le_iff_toNat_le
  rw [show min a b = if a ≤ b then a else b from rfl]
  by_cases h : a.toNat ≤ b.toNat
  · rw [if_pos (hle.mpr h), Nat.min_eq_left h]
  · rw [if_neg (mt hle.mp h), Nat.min_eq_right (by omega)]

namespace Grid

variable {α : Type} [Coordinate α]

theorem toNat_cellIndex (distance cellSize : α) {count : UInt32} (h : 1 ≤ count) :
    (cellIndex distance cellSize count).toNat =
      min (Coordinate.wholePart (distance / cellSize)).toNat (count.toNat - 1) := by
  rw [cellIndex, toNat_min, UInt32.toNat_sub_of_le _ _ h, UInt32.toNat_one]

/-- An index is held below the count, whatever the quotient is that it comes from. -/
theorem cellIndex_lt (distance cellSize : α) {count : UInt32} (h : 1 ≤ count) :
    (cellIndex distance cellSize count).toNat < count.toNat := by
  have hcount : 1 ≤ count.toNat := UInt32.le_iff_toNat_le.mp h
  rw [toNat_cellIndex _ _ h]
  omega

variable (g : Grid α) (x y : α) (level : UInt32)

theorem tileAt?_eq_none_iff : g.tileAt? x y level = none ↔ g.extent.contains x y = false := by
  rw [tileAt?]
  cases g.extent.contains x y <;> simp

theorem tileAt?_of_contains (h : g.extent.contains x y = true) :
    g.tileAt? x y level =
      some ⟨level, cellIndex (x - g.extent.minX) (g.cellWidth level) (g.columnsAt level),
        cellIndex (y - g.extent.minY) (g.cellHeight level) (g.rowsAt level)⟩ :=
  if_pos h

variable {g x y level}

theorem extent_contains_of_tileAt? {t : Tile} (h : g.tileAt? x y level = some t) :
    g.extent.contains x y = true := by
  rw [← Bool.not_eq_false, ← g.tileAt?_eq_none_iff x y level, h]
  exact Option.some_ne_none t

theorem exists_tileAt? (h : g.extent.contains x y = true) (level : UInt32) :
    ∃ t, g.tileAt? x y level = some t := ⟨_, g.tileAt?_of_contains x y level h⟩

theorem contains_of_tileAt? {t : Tile} (h : g.tileAt? x y level = some t) :
    t.level = level ∧ g.contains t = true := by
  rw [g.tileAt?_of_contains x y level (extent_contains_of_tileAt? h), Option.some.injEq] at h
  subst h
  refine ⟨rfl, (g.contains_iff _).mpr ⟨?_, ?_⟩⟩
  · exact cellIndex_lt _ _ (Exact.one_le_countAt g.rootColumns_pos level)
  · exact cellIndex_lt _ _ (Exact.one_le_countAt g.rootRows_pos level)

end Grid

namespace Overlay

variable {o : Overlay} {t : Tile}

/-- With one root row the rows of a level are those of a square pyramid. -/
theorem row_lt_of_one_root (hroot : o.placement.grid.rootRows = 1)
    (hin : o.placement.grid.contains t = true) : t.row.toNat < 2 ^ t.level.toNat := by
  have hrow := ((Grid.contains_iff _ _).mp hin).2
  have hrows := Grid.toNat_countAt o.placement.grid.rootRows t.level
  rw [hroot, UInt32.toNat_one, Nat.one_mul] at hrows
  rw [Grid.rowsAt, hroot, hrows] at hrow
  omega

/-- A placeholder finds a tile of the grid outside only if it flips rows of another pyramid. -/
theorem fieldFault?_ne_outside (hflip : o.flipRows = false ∨ o.placement.grid.rootRows = 1)
    (hin : o.placement.grid.contains t = true) (name : String) (t' : Tile) :
    o.fieldFault? t name ≠ some (.outsideGrid t') := by
  obtain ⟨hcolumn, hrow⟩ := (Grid.contains_iff _ _).mp hin
  have hflipped : ¬ (o.flipRows = true ∧ 2 ^ t.level.toNat ≤ t.row.toNat) := by
    rintro ⟨hon, hbeyond⟩
    rcases hflip with hoff | hroot
    · rw [hoff] at hon
      cases hon
    · have := row_lt_of_one_root hroot hin
      omega
  rw [fieldFault?]
  -- an index is counted back only if it is below a count of the grid
  split_ifs with hlevel houtside hnone
  · simp
  · rcases houtside with ⟨-, h⟩ | ⟨-, h⟩ | ⟨-, h⟩
    · omega
    · omega
    · exact absurd h hflipped
  · simp
  · simp

theorem serviceFault?_ne_outside (ht : t.level.toNat ≤ 30)
    (hin : o.placement.grid.contains t = true) (t' : Tile) :
    o.serviceFault? t ≠ some (.outsideGrid t') := by
  have hinside := (Grid.contains_iff _ _).mp hin
  rw [serviceFault?, if_neg (Nat.not_lt.mpr ht)]
  -- inside the grid the causes that are left are those of the label and of the subdomain
  split_ifs
  · simp
  · simp
  · simp
  · simp
  · simp

end Overlay

namespace TileLoader

theorem url_ne_outside {o : Overlay} {l : TileLoader} {t : Tile} (hl : ofOverlay o = .ok l)
    (hflip : o.flipRows = false ∨ o.placement.grid.rootRows = 1) (ht : t.level.toNat ≤ 30)
    (hin : o.placement.grid.contains t = true) (t' : Tile) :
    l.url t ≠ .error (.outsideGrid t') := by
  cases hs : o.source with
  | template =>
    rw [url_eq_of_template hl hs ht, ne_eq, elim_eq_error_iff]
    intro hfault
    obtain ⟨name, -, hname⟩ := List.exists_of_findSome?_eq_some hfault
    exact o.fieldFault?_ne_outside hflip hin name t' hname
  | wmts =>
    rw [url_eq_of_wmts hl hs, ne_eq, elim_eq_error_iff]
    exact o.serviceFault?_ne_outside ht hin t'

end TileLoader

/-- A position has a tile of each level exactly if it lies in the rectangle of the grid, and that
tile is one of the grid, whatever the numbers are and however their operations round. The loader of
an accepted overlay that does not flip rows, or has one root row, then finds no such tile outside:
neither the tile nor, in its place, another one. -/
theorem positions_name_tiles_inside :
    (∀ (α : Type) [Coordinate α] (g : Grid α) (x y : α) (level : UInt32),
      (g.tileAt? x y level = none ↔ g.extent.contains x y = false) ∧
      ∀ t, g.tileAt? x y level = some t → t.level = level ∧ g.contains t = true) ∧
    ∀ (o : Overlay) (a : Addressing), Addressing.ofOverlay o = .ok a →
      o.flipRows = false ∨ o.placement.grid.rootRows = 1 →
      ∃ l, TileLoader.ofOverlay o = .ok l ∧ l.addressing = a ∧ l.placement = o.placement ∧
        ∀ (longitude latitude : Float) (level : UInt32) (t t' : Tile), level ≤ 30 →
          l.placement.tileAtDegrees? longitude latitude level = some t →
          l.url t ≠ .error (.outsideGrid t') := by
  constructor
  · intro α _ g x y level
    exact ⟨g.tileAt?_eq_none_iff x y level, fun t ht => Grid.contains_of_tileAt? ht⟩
  · intro o a ha hflip
    have hl := (TileLoader.ofOverlay_eq_ok_iff o _).mpr ⟨a, ha, rfl⟩
    refine ⟨_, hl, rfl, rfl, ?_⟩
    intro longitude latitude level t t' hlevel ht
    obtain ⟨rfl, hin⟩ := Grid.contains_of_tileAt? ht
    exact TileLoader.url_ne_outside hl hflip (UInt32.le_iff_toNat_le.mp hlevel) hin t'

/-- The north-eastern corner of the globe belongs to the last column and row, which is flipped to
the first. -/
theorem positions_name_tiles_inside_at_the_corner :
    ∃ l, TileLoader.ofOverlay { url := "{x}/{y}", flipRows := true } = .ok l ∧
      l.placement.tileAtDegrees? 180.0 90.0 1 = some ⟨1, 3, 1⟩ ∧
      l.url ⟨1, 3, 1⟩ ≠ .error (.outsideGrid ⟨1, 3, 1⟩) := by
  obtain ⟨a, ha, -⟩ := (TileLoader.ofOverlay_eq_ok_iff _ _).mp
    ((TileLoader.ofOverlay_eq_ok_iff_of_template (o := { url := "{x}/{y}", flipRows := true })
      rfl _).mpr ⟨by decide +kernel, rfl⟩)
  obtain ⟨l, hl, -, hplacement, hinside⟩ := positions_name_tiles_inside.2 _ a ha (.inr rfl)
  have htile : l.placement.tileAtDegrees? 180.0 90.0 1 = some ⟨1, 3, 1⟩ := by
    rw [hplacement]
    decide +kernel
  exact ⟨l, hl, htile, hinside 180.0 90.0 1 _ _ (by decide) htile⟩

end RasterOverlay
