import Mathlib
import RasterOverlay.Proofs.ExactIndices

/-!
The number of tiles in one direction, level by level. It is the root tiles doubled once for each level,
and the greatest word on all levels where that is more than a word holds. So every level has tiles, and
none has fewer than the level above it. Counting an index back undoes itself below the count of any
level, a held one included, and fails on every index that is not below it.
-/

namespace RasterOverlay

theorem invertRow_comm {rows row r : UInt32} :
    invertRow rows row = some r ↔ invertRow rows r = some row := by
  rw [invertRow_eq_some_iff, invertRow_eq_some_iff, Nat.add_comm row.toNat]

/-- The indices below a count are paired, with one as far from the last index as the other is from the
first. -/
theorem exists_pair {count i : UInt32} (h : i < count) :
    ∃ k, k < count ∧ i.toNat + k.toNat + 1 = count.toNat ∧
      invertRow count i = some k ∧ invertRow count k = some i := by
  obtain ⟨k, hk, -⟩ := invertRow_of_lt (UInt32.lt_iff_toNat_lt.mp h)
  have hsum := invertRow_eq_some_iff.mp hk
  have hlt : k < count := UInt32.lt_iff_toNat_lt.mpr (by omega)
  exact ⟨k, hlt, hsum, hk, invertRow_comm.mp hk⟩

namespace Grid

/-- The counts of a direction with so many root tiles, one for each level. -/
structure LevelCounts (roots : ℕ) (count : UInt32 → UInt32) : Prop where
  held : ∀ level, (count level).toNat = min (2 ^ 32 - 1) (roots * 2 ^ level.toNat)
  pos : ∀ level, 0 < count level
  mono : ∀ upper lower, upper ≤ lower → count upper ≤ count lower
  paired : ∀ level i, i < count level →
    ∃ k, k < count level ∧ i.toNat + k.toNat + 1 = (count level).toNat ∧
      invertRow (count level) i = some k ∧ invertRow (count level) k = some i
  unpaired : ∀ level i, invertRow (count level) i = none ↔ count level ≤ i

theorem toNat_atLeastOne (n : UInt32) : (atLeastOne n).toNat = max 1 n.toNat := by
  rw [atLeastOne]
  by_cases h : n = 0
  · rw [if_pos h, h]
    rfl
  · have hpos : n.toNat ≠ 0 := fun hzero => h (UInt32.toNat_inj.mp hzero)
    rw [if_neg h]
    omega

/-- Holding the counts keeps their order. -/
theorem countAt_mono (roots : UInt32) {upper lower : UInt32} (h : upper ≤ lower) :
    countAt roots upper ≤ countAt roots lower := by
  have hpow : 2 ^ upper.toNat ≤ 2 ^ lower.toNat :=
    Nat.pow_le_pow_right Nat.two_pos (UInt32.le_iff_toNat_le.mp h)
  have hexact : roots.toNat * 2 ^ upper.toNat ≤ roots.toNat * 2 ^ lower.toNat :=
    Nat.mul_le_mul_left _ hpow
  rw [UInt32.le_iff_toNat_le, toNat_countAt, toNat_countAt]
  exact min_le_min_right _ hexact

theorem levelCounts_countAt {roots : UInt32} (h : 0 < roots) :
    LevelCounts roots.toNat (countAt roots) := by
  constructor
  case held =>
    intro level
    rw [toNat_countAt, min_comm]
  case pos =>
    intro level
    have hone := UInt32.le_iff_toNat_le.mp (Exact.one_le_countAt h level)
    exact UInt32.lt_iff_toNat_lt.mpr hone
  case mono =>
    intro upper lower hlevels
    exact countAt_mono roots hlevels
  case paired =>
    intro level i hi
    exact exists_pair hi
  case unpaired =>
    intro level i
    rw [invertRow_eq_none_iff, UInt32.le_iff_toNat_le]

end Grid

/-- A grid has at least one root tile in each direction, however many it is asked to have. On every
level, the ones that are never served included, its counts are the exact ones held to the greatest word.
So they are positive and none is below that of the level above, and counting back is its own inverse
below each of them. -/
theorem counts_double_until_held {α : Type} (extent : Rectangle α) (columns rows : UInt32) :
    let g := Grid.ofRoots extent columns rows
    (g.rootColumns.toNat = max 1 columns.toNat ∧
      Grid.LevelCounts g.rootColumns.toNat g.columnsAt) ∧
    g.rootRows.toNat = max 1 rows.toNat ∧ Grid.LevelCounts g.rootRows.toNat g.rowsAt := by
  intro g
  have hcolumns : Grid.LevelCounts g.rootColumns.toNat g.columnsAt :=
    Grid.levelCounts_countAt g.rootColumns_pos
  have hrows : Grid.LevelCounts g.rootRows.toNat g.rowsAt :=
    Grid.levelCounts_countAt g.rootRows_pos
  exact ⟨⟨Grid.toNat_atLeastOne columns, hcolumns⟩, Grid.toNat_atLeastOne rows, hrows⟩

/-- No root columns are one, and three root rows are held from level 31 to the last level of all. -/
theorem counts_double_until_held_at_the_last_level :
    let g : Grid ℚ := .ofRoots ⟨0, 0, 1, 1⟩ 0 3
    let last : UInt32 := 4294967295
    g.rootColumns.toNat = 1 ∧ (g.columnsAt 31).toNat = 2 ^ 31 ∧
      (g.rowsAt 30).toNat = 3 * 2 ^ 30 ∧ g.rowsAt 31 ≤ g.rowsAt last ∧
      (g.rowsAt last).toNat = 2 ^ 32 - 1 ∧ invertRow (g.rowsAt last) last = none ∧
      ∃ k, invertRow (g.rowsAt last) 5 = some k ∧ k.toNat = 2 ^ 32 - 7 ∧
        invertRow (g.rowsAt last) k = some 5 := by
  intro g last
  obtain ⟨⟨hroots, hcolumns⟩, -, hrows⟩ :=
    counts_double_until_held (⟨0, 0, 1, 1⟩ : Rectangle ℚ) 0 3
  -- the exact count of this level is far too long to be written out
  have hlast : (g.rowsAt last).toNat = 2 ^ 32 - 1 := by decide +kernel
  obtain ⟨k, -, hsum, hk, hback⟩ := hrows.paired last 5 (by decide +kernel)
  have hvalue : 5 + k.toNat + 1 = 2 ^ 32 - 1 := hsum.trans hlast
  exact ⟨hroots, hcolumns.held 31, hrows.held 30, hrows.mono 31 last (by decide), hlast,
    (hrows.unpaired last last).mpr (by decide +kernel), k, hk, by omega, hback⟩

end RasterOverlay
