import Mathlib
import RasterOverlay.Addressing

/-!
The arithmetic of tile indices in whole numbers. Counts, inverted indices and biased levels are
computed in machine words; each is given here as an equation on the numbers that the words stand
for, so that nothing after this module opens the words again.
-/

namespace RasterOverlay

namespace Grid

theorem toNat_min_level (level : UInt32) : (min level 32).toNat = min level.toNat 32 := by
  have hle : level ≤ 32 ↔ level.toNat ≤ 32 := UInt32.le_iff_toNat_le
  rw [show min level 32 = if level ≤ 32 then level else 32 from rfl]
  by_cases h : level.toNat ≤ 32
  · rw [if_pos (hle.mpr h), Nat.min_eq_left h]
  · rw [if_neg (mt hle.mp h), Nat.min_eq_right (by omega)]
    rfl

/-- Doubling once for each level stays within 64 bits. -/
theorem toNat_doubled (roots level : UInt32) :
    (roots.toUInt64 <<< (min level 32).toUInt64).toNat =
      roots.toNat * 2 ^ min level.toNat 32 := by
  have hroots := roots.toNat_lt
  have hpow : 2 ^ min level.toNat 32 ≤ 2 ^ 32 := Nat.pow_le_pow_right (by decide) (by omega)
  -- A word of 32 bits is doubled at most 32 times.
  have hfits : roots.toNat * 2 ^ min level.toNat 32 < 2 ^ 64 := by
    calc roots.toNat * 2 ^ min level.toNat 32
        ≤ roots.toNat * 2 ^ 32 := Nat.mul_le_mul_left _ hpow
      _ < 2 ^ 64 := by omega
  have hshift : min level.toNat 32 % 64 = min level.toNat 32 := Nat.mod_eq_of_lt (by omega)
  rw [UInt64.toNat_shiftLeft, UInt32.toNat_toUInt64, UInt32.toNat_toUInt64, toNat_min_level, hshift,
    Nat.shiftLeft_eq, Nat.mod_eq_of_lt hfits]

/-- The count of a level is the exact one, held to the greatest word. -/
theorem toNat_countAt (roots level : UInt32) :
    (countAt roots level).toNat = min (roots.toNat * 2 ^ level.toNat) (2 ^ 32 - 1) := by
  have hexact := toNat_doubled roots level
  have hheld : greatestCount.toUInt64.toNat = 2 ^ 32 - 1 := by decide
  -- Beyond level 32 both sides are held, unless there are no root tiles at all.
  have hdeep : min (roots.toNat * 2 ^ min level.toNat 32) (2 ^ 32 - 1) =
      min (roots.toNat * 2 ^ level.toNat) (2 ^ 32 - 1) := by
    by_cases hl : level.toNat ≤ 32
    · rw [Nat.min_eq_left hl]
    · rw [Nat.min_eq_right (show 32 ≤ level.toNat by omega)]
      have hpow : 2 ^ 32 ≤ 2 ^ level.toNat := Nat.pow_le_pow_right (by decide) (by omega)
      by_cases hr : roots.toNat = 0
      · rw [hr, Nat.zero_mul, Nat.zero_mul]
      · have hmul : 1 * 2 ^ 32 ≤ roots.toNat * 2 ^ 32 := Nat.mul_le_mul_right _ (by omega)
        have hmul' : roots.toNat * 2 ^ 32 ≤ roots.toNat * 2 ^ level.toNat :=
          Nat.mul_le_mul_left _ hpow
        omega
  rw [← hdeep, ← hexact, ← hheld, countAt]
  simp only [UInt64.le_iff_toNat_le]
  split
  · rename_i hle
    rw [UInt64.toNat_toUInt32, Nat.min_eq_left hle, Nat.mod_eq_of_lt (by omega)]
  · rename_i hle
    rw [Nat.min_eq_right (by omega), hheld]
    decide

theorem contains_iff {α : Type} (g : Grid α) (t : Tile) :
    g.contains t = true ↔
      t.column.toNat < (g.columnsAt t.level).toNat ∧ t.row.toNat < (g.rowsAt t.level).toNat := by
  simp only [contains, Bool.and_eq_true, decide_eq_true_eq, UInt32.lt_iff_toNat_lt]

end Grid

/-- A difference of two words that are not equal can be lowered by one. -/
theorem one_le_sub_of_lt {a b : UInt32} (h : a < b) : 1 ≤ b - a := by
  have hlt := UInt32.lt_iff_toNat_lt.mp h
  rw [UInt32.le_iff_toNat_le, UInt32.toNat_sub_of_le _ _ (UInt32.le_of_lt h), UInt32.toNat_one]
  omega

theorem toNat_sub_sub_one {a b : UInt32} (h : a < b) :
    (b - a - 1).toNat = b.toNat - a.toNat - 1 := by
  rw [UInt32.toNat_sub_of_le _ _ (one_le_sub_of_lt h),
    UInt32.toNat_sub_of_le _ _ (UInt32.le_of_lt h), UInt32.toNat_one]

theorem invertRow_of_lt {rows row : UInt32} (h : row.toNat < rows.toNat) :
    ∃ r, invertRow rows row = some r ∧ r.toNat = rows.toNat - 1 - row.toNat := by
  have hlt : row < rows := UInt32.lt_iff_toNat_lt.mpr h
  refine ⟨rows - row - 1, if_pos hlt, ?_⟩
  rw [toNat_sub_sub_one hlt]
  omega

theorem invertRow_of_le {rows row : UInt32} (h : rows.toNat ≤ row.toNat) :
    invertRow rows row = none :=
  if_neg fun hlt => absurd (UInt32.lt_iff_toNat_lt.mp hlt) (by omega)

theorem of_invertRow_eq_some {rows row r : UInt32} (h : invertRow rows row = some r) :
    row.toNat < rows.toNat ∧ r.toNat = rows.toNat - 1 - row.toNat := by
  by_cases hin : row.toNat < rows.toNat
  · obtain ⟨r', hr', hvalue⟩ := invertRow_of_lt hin
    rw [hr'] at h
    cases h
    exact ⟨hin, hvalue⟩
  · rw [invertRow_of_le (Nat.not_lt.mp hin)] at h
    cases h

theorem invertRow_eq_none_iff (rows row : UInt32) :
    invertRow rows row = none ↔ rows.toNat ≤ row.toNat := by
  refine ⟨fun h => ?_, invertRow_of_le⟩
  by_contra hlt
  obtain ⟨r, hr, -⟩ := invertRow_of_lt (Nat.lt_of_not_le hlt)
  rw [hr] at h
  cases h

/-- A row and its inverted one add up to the last row. -/
theorem invertRow_eq_some_iff {rows row r : UInt32} :
    invertRow rows row = some r ↔ row.toNat + r.toNat + 1 = rows.toNat := by
  constructor
  · intro h
    obtain ⟨hin, hvalue⟩ := of_invertRow_eq_some h
    omega
  · intro h
    obtain ⟨r', hr', hvalue⟩ := invertRow_of_lt (show row.toNat < rows.toNat by omega)
    rw [hr', Option.some.injEq, ← UInt32.toNat_inj]
    omega

namespace Level

theorem toInt_level (level : UInt32) : level.toUInt64.toInt64.toInt = level.toNat := by
  have hlt := level.toNat_lt
  rw [Int64.toInt, UInt64.toBitVec_toInt64, BitVec.toInt_eq_toNat_of_lt]
  · rw [UInt64.toNat_toBitVec, UInt32.toNat_toUInt64]
  · rw [UInt64.toNat_toBitVec, UInt32.toNat_toUInt64]
    omega

theorem toInt_sum (level : UInt32) (bias : Int32) :
    (level.toUInt64.toInt64 + bias.toInt64).toInt = level.toNat + bias.toInt := by
  have hlt := level.toNat_lt
  have hb := bias.toInt_lt
  have hb' := bias.le_toInt
  rw [Int64.toInt_add, toInt_level, Int32.toInt_toInt64, Int.bmod_eq_of_le_mul_two] <;> omega

theorem biased_of_nonneg (level : UInt32) (bias : Int32) (h0 : 0 ≤ level.toNat + bias.toInt)
    (h1 : level.toNat + bias.toInt < 2 ^ 32) :
    ∃ b, biased level bias = .ok b ∧ b.toNat = (level.toNat + bias.toInt).toNat := by
  have hsum := toInt_sum level bias
  -- Both guards of the program hold, so the cast back to 32 bits keeps the sum.
  have hlow : (0 : Int64) ≤ level.toUInt64.toInt64 + bias.toInt64 := by
    rw [Int64.le_iff_toInt_le, hsum]
    exact h0
  have hhigh : level.toUInt64.toInt64 + bias.toInt64 ≤ 0xffffffff := by
    rw [Int64.le_iff_toInt_le, hsum, show (0xffffffff : Int64).toInt = 2 ^ 32 - 1 by decide]
    omega
  refine ⟨_, if_pos ⟨hlow, hhigh⟩, ?_⟩
  rw [UInt64.toNat_toUInt32, Int64.toNat_toUInt64_of_le hlow, ← Int64.toNat_toInt, hsum,
    Nat.mod_eq_of_lt (by omega)]

theorem biased_of_neg (level : UInt32) (bias : Int32) (h : level.toNat + bias.toInt < 0) :
    biased level bias = .error (.negativeLevel level bias) := by
  refine if_neg fun hin => ?_
  have hlow := Int64.le_iff_toInt_le.mp hin.1
  rw [toInt_sum, Int64.toInt_zero] at hlow
  omega

theorem error_of_biased {level : UInt32} {bias : Int32} {e : TileError}
    (h : biased level bias = .error e) : e = .negativeLevel level bias := by
  rw [biased] at h
  split at h
  · cases h
  · exact (Except.error.inj h).symm

end Level

namespace TemplateAddressing

theorem toNat_squareRows (level : UInt32) (hl : level.toNat < 64) :
    ((1 : UInt64) <<< level.toUInt64).toNat = 2 ^ level.toNat := by
  have hpow : 2 ^ level.toNat < 2 ^ 64 := Nat.pow_lt_pow_right (by decide) hl
  rw [UInt64.toNat_shiftLeft, UInt32.toNat_toUInt64, UInt64.toNat_one, Nat.mod_eq_of_lt hl,
    Nat.shiftLeft_eq, Nat.one_mul, Nat.mod_eq_of_lt hpow]

theorem toNat_usedRows (row : UInt32) : (row.toUInt64 + 1).toNat = row.toNat + 1 := by
  have hlt := row.toNat_lt
  rw [UInt64.toNat_add, UInt32.toNat_toUInt64, UInt64.toNat_one, Nat.mod_eq_of_lt (by omega)]

theorem flippedRow?_of_lt {t : Tile} (hl : t.level.toNat < 64)
    (h : t.row.toNat < 2 ^ t.level.toNat) :
    ∃ r, flippedRow? t = some r ∧ r.toNat = 2 ^ t.level.toNat - 1 - t.row.toNat := by
  have hrows := toNat_squareRows t.level hl
  have hused := toNat_usedRows t.row
  -- The rows up to this one are at most all rows, so the difference does not wrap.
  have hle : t.row.toUInt64 + 1 ≤ (1 : UInt64) <<< t.level.toUInt64 := by
    rw [UInt64.le_iff_toNat_le, hrows, hused]
    exact h
  refine ⟨_, if_pos ⟨UInt32.lt_iff_toNat_lt.mpr hl, hle⟩, ?_⟩
  rw [UInt64.toNat_sub_of_le _ _ hle, hrows, hused]
  omega

theorem flippedRow?_of_le {t : Tile} (hl : t.level.toNat < 64)
    (h : 2 ^ t.level.toNat ≤ t.row.toNat) : flippedRow? t = none := by
  refine if_neg fun hin => ?_
  have hle := UInt64.le_iff_toNat_le.mp hin.2
  rw [toNat_squareRows t.level hl, toNat_usedRows] at hle
  omega

theorem of_flippedRow?_eq_some {t : Tile} {r : UInt64} (h : flippedRow? t = some r) :
    t.row.toNat < 2 ^ t.level.toNat ∧ r.toNat = 2 ^ t.level.toNat - 1 - t.row.toNat := by
  have hlevel : t.level.toNat < 64 := by
    by_contra hdeep
    rw [flippedRow?, if_neg fun hin => hdeep (UInt32.lt_iff_toNat_lt.mp hin.1)] at h
    cases h
  by_cases hin : t.row.toNat < 2 ^ t.level.toNat
  · obtain ⟨r', hr', hvalue⟩ := flippedRow?_of_lt hlevel hin
    rw [hr'] at h
    cases h
    exact ⟨hin, hvalue⟩
  · rw [flippedRow?_of_le hlevel (Nat.not_lt.mp hin)] at h
    cases h

theorem toNat_reversedLevel (maxLevel level : UInt32) :
    (reversedLevel maxLevel level).toNat =
      if level.toNat < maxLevel.toNat then maxLevel.toNat - level.toNat - 1 else level.toNat := by
  rw [reversedLevel]
  by_cases h : level < maxLevel
  · rw [if_pos h, if_pos (UInt32.lt_iff_toNat_lt.mp h), toNat_sub_sub_one h]
  · rw [if_neg h, if_neg fun hlt => h (UInt32.lt_iff_toNat_lt.mpr hlt)]

end TemplateAddressing

namespace Subdomains

/-- The subdomain whose turn it is, if there is any. -/
def turn (s : Subdomains) (t : Tile) : String :=
  s.names.getD ((t.level.toNat + t.column.toNat + t.row.toNat) % s.names.length) ""

theorem shard_eq (count : Nat) (t : Tile) :
    shard count t = (t.level.toNat + t.column.toNat + t.row.toNat) % count := by
  have hlevel := t.level.toNat_lt
  have hcolumn := t.column.toNat_lt
  have hrow := t.row.toNat_lt
  have hfits : t.level.toNat + t.column.toNat < 2 ^ 64 := by omega
  have hfits' : t.level.toNat + t.column.toNat + t.row.toNat < 2 ^ 64 := by omega
  rw [shard, UInt64.toNat_add, UInt64.toNat_add, UInt32.toNat_toUInt64, UInt32.toNat_toUInt64,
    UInt32.toNat_toUInt64, Nat.mod_eq_of_lt hfits, Nat.mod_eq_of_lt hfits']

theorem select?_eq (s : Subdomains) (t : Tile) :
    s.select? t = if s.names = [] then none else some (s.turn t) := by
  rw [select?, shard_eq]
  split
  · rename_i hnone
    rw [hnone]
    rfl
  · rename_i hsome
    have hlt := Nat.mod_lt (t.level.toNat + t.column.toNat + t.row.toNat)
      (List.length_pos_iff.mpr hsome)
    rw [turn, List.getD_eq_getElem?_getD, List.getElem?_eq_getElem hlt, Option.getD_some]

end Subdomains

end RasterOverlay
