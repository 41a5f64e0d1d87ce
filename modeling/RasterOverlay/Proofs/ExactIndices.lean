import Mathlib
import RasterOverlay.Proofs.TileIndices

/-!
Index arithmetic that cannot go wrong unnoticed. A word that is computed need not be the number that
it should be: a difference may go below zero, and the leading digits of a sum or of a doubled count
may be lost. Here the computations on tile indices are repeated with a check behind each operation,
which stops them unless the word stands for the exact result. That a checked computation comes to
the same as the running one then says that none of its operations leaves the type that it is done
in.
-/

namespace RasterOverlay

/-! ## Checked operations -/

/-- Why an operation has no exact result. -/
inductive Misstep where
  /-- The word is not the number that it should be. -/
  | inexact
  | shiftTooWide
  | zeroDivisor
  | outOfList
  deriving DecidableEq

/-- A computation that stops at its first misstep. -/
abbrev Exact := Except Misstep

/-- Words, each of which stands for a whole number. -/
class Word (ω : Type) where
  value : ω → ℤ

instance : Word ℕ := ⟨fun n => n⟩

instance : Word UInt32 := ⟨fun n => n.toNat⟩

instance : Word UInt64 := ⟨fun n => n.toNat⟩

instance : Word Int32 := ⟨Int32.toInt⟩

instance : Word Int64 := ⟨Int64.toInt⟩

namespace Exact

section

variable {ω ω' : Type} [Word ω] [Word ω']

/-- A word, if it stands for this number. -/
def word (w : ω) (n : ℤ) : Exact ω := if Word.value w = n then .ok w else .error .inexact

def add [Add ω] (a b : ω) : Exact ω := word (a + b) (Word.value a + Word.value b)

def sub [Sub ω] (a b : ω) : Exact ω := word (a - b) (Word.value a - Word.value b)

def shiftLeft (a places : UInt64) : Exact UInt64 :=
  if 64 ≤ places then .error .shiftTooWide
  else word (a <<< places) (Word.value a * 2 ^ places.toNat)

def divide (a b : UInt32) : Exact UInt32 :=
  if b = 0 then .error .zeroDivisor else word (a / b) (Word.value a / Word.value b)

/-- The same number as a word of another type. -/
def cast (f : ω → ω') (a : ω) : Exact ω' := word (f a) (Word.value a)

end

def remainder (n count : Nat) : Exact Nat :=
  if count = 0 then .error .zeroDivisor else .ok (n % count)

def entry {α : Type} (items : List α) (i : Nat) : Exact α :=
  match items[i]? with
  | some item => .ok item
  | none => .error .outOfList

/-! An operation whose result fits is the running one. -/

section

variable {ω : Type} [Word ω]

theorem word_eq {w : ω} {n : ℤ} (h : Word.value w = n) : word w n = .ok w := if_pos h

theorem sub_eq {a b : UInt32} (h : b ≤ a) : sub a b = .ok (a - b) := by
  have hsub : (a - b).toNat = a.toNat - b.toNat := UInt32.toNat_sub_of_le a b h
  have hle : b.toNat ≤ a.toNat := UInt32.le_iff_toNat_le.mp h
  apply word_eq
  show ((a - b).toNat : ℤ) = (a.toNat : ℤ) - b.toNat
  omega

theorem sub_eq_of_long {a b : UInt64} (h : b ≤ a) : sub a b = .ok (a - b) := by
  have hsub : (a - b).toNat = a.toNat - b.toNat := UInt64.toNat_sub_of_le a b h
  have hle : b.toNat ≤ a.toNat := UInt64.le_iff_toNat_le.mp h
  apply word_eq
  show ((a - b).toNat : ℤ) = (a.toNat : ℤ) - b.toNat
  omega

theorem add_eq {a b : UInt64} (h : a.toNat + b.toNat < 2 ^ 64) : add a b = .ok (a + b) := by
  have hsum : (a + b).toNat = a.toNat + b.toNat := by
    rw [UInt64.toNat_add, Nat.mod_eq_of_lt h]
  apply word_eq
  show ((a + b).toNat : ℤ) = (a.toNat : ℤ) + b.toNat
  omega

theorem shiftLeft_eq {a places : UInt64} (hplaces : places.toNat < 64)
    (h : a.toNat * 2 ^ places.toNat < 2 ^ 64) : shiftLeft a places = .ok (a <<< places) := by
  have hnarrow : ¬ 64 ≤ places := by
    rw [UInt64.le_iff_toNat_le]
    exact Nat.not_le.mpr hplaces
  have hshift : (a <<< places).toNat = a.toNat * 2 ^ places.toNat := by
    rw [UInt64.toNat_shiftLeft, Nat.mod_eq_of_lt hplaces, Nat.shiftLeft_eq, Nat.mod_eq_of_lt h]
  rw [shiftLeft, if_neg hnarrow]
  apply word_eq
  show ((a <<< places).toNat : ℤ) = (a.toNat : ℤ) * 2 ^ places.toNat
  rw [hshift]
  push_cast
  rfl

theorem sub_eq_of_nat {a b : ℕ} (h : b ≤ a) : sub a b = .ok (a - b) := by
  apply word_eq
  exact Int.ofNat_sub h

theorem divide_eq {a b : UInt32} (h : b ≠ 0) : divide a b = .ok (a / b) := by
  rw [divide, if_neg h]
  apply word_eq
  show ((a / b).toNat : ℤ) = (a.toNat : ℤ) / b.toNat
  rw [UInt32.toNat_div]
  push_cast
  rfl

theorem cast_toUInt64 (n : UInt32) : cast UInt32.toUInt64 n = .ok n.toUInt64 := by
  apply word_eq
  show (n.toUInt64.toNat : ℤ) = n.toNat
  rw [UInt32.toNat_toUInt64]

theorem cast_toUInt32 {n : UInt64} (h : n.toNat < 2 ^ 32) :
    cast UInt64.toUInt32 n = .ok n.toUInt32 := by
  apply word_eq
  show (n.toUInt32.toNat : ℤ) = n.toNat
  rw [UInt64.toNat_toUInt32, Nat.mod_eq_of_lt h]

theorem remainder_eq {n count : Nat} (h : count ≠ 0) : remainder n count = .ok (n % count) :=
  if_neg h

theorem entry_eq {α : Type} {items : List α} {i : Nat} (h : i < items.length) :
    entry items i = .ok items[i] := by
  rw [entry, List.getElem?_eq_getElem h]

example : sub (0 : UInt32) 1 = .error .inexact := by decide

example : shiftLeft 2 63 = .error .inexact := by decide

end

/-! ## Grids -/

def countAt (roots level : UInt32) : Exact UInt32 := do
  let wide ← cast UInt32.toUInt64 roots
  let places ← cast UInt32.toUInt64 (min level 32)
  let doubled ← shiftLeft wide places
  if doubled ≤ Grid.greatestCount.toUInt64 then cast UInt64.toUInt32 doubled
  else return Grid.greatestCount

section

variable {α : Type} (g : Grid α)

def columnsAt (level : UInt32) : Exact UInt32 := countAt g.rootColumns level

def rowsAt (level : UInt32) : Exact UInt32 := countAt g.rootRows level

def contains (t : Tile) : Exact Bool := do
  let columns ← columnsAt g t.level
  let rows ← rowsAt g t.level
  return t.column < columns && t.row < rows

variable [Coordinate α]

def cellIndex (distance cellSize : α) (count : UInt32) : Exact UInt32 := do
  let last ← sub count 1
  return min (Coordinate.wholePart (distance / cellSize)) last

def tileAt? (x y : α) (level : UInt32) : Exact (Option Tile) := do
  if g.extent.contains x y then
    let columns ← columnsAt g level
    let rows ← rowsAt g level
    let cellWidth := g.extent.width / Coordinate.ofCount columns
    let cellHeight := g.extent.height / Coordinate.ofCount rows
    let column ← cellIndex (x - g.extent.minX) cellWidth columns
    let row ← cellIndex (y - g.extent.minY) cellHeight rows
    return some ⟨level, column, row⟩
  else return none

end

theorem countAt_eq (roots level : UInt32) :
    countAt roots level = .ok (Grid.countAt roots level) := by
  have hroots := roots.toNat_lt
  have hplaces : (min level 32).toUInt64.toNat = min level.toNat 32 := by
    rw [UInt32.toNat_toUInt64, Grid.toNat_min_level]
  have hpow : 2 ^ min level.toNat 32 ≤ 2 ^ 32 := Nat.pow_le_pow_right (by decide) (by omega)
  -- A word of 32 bits is doubled at most 32 times, so the long word holds it.
  have hfits : roots.toUInt64.toNat * 2 ^ (min level 32).toUInt64.toNat < 2 ^ 64 := by
    rw [hplaces, UInt32.toNat_toUInt64]
    calc roots.toNat * 2 ^ min level.toNat 32
        ≤ roots.toNat * 2 ^ 32 := Nat.mul_le_mul_left _ hpow
      _ < 2 ^ 64 := by omega
  have hshift := shiftLeft_eq (by omega) hfits
  have hgreatest : Grid.greatestCount.toUInt64.toNat = 2 ^ 32 - 1 := by decide
  rw [countAt, cast_toUInt64, cast_toUInt64]
  show (shiftLeft roots.toUInt64 (min level 32).toUInt64 >>= _) = _
  rw [hshift, Grid.countAt]
  show (if _ then _ else _) = _
  by_cases hheld : roots.toUInt64 <<< (min level 32).toUInt64 ≤ Grid.greatestCount.toUInt64
  · have hle := UInt64.le_iff_toNat_le.mp hheld
    rw [if_pos hheld, if_pos hheld, cast_toUInt32 (by omega)]
  · rw [if_neg hheld, if_neg hheld]
    rfl

section

variable {α : Type} (g : Grid α)

theorem columnsAt_eq (level : UInt32) : columnsAt g level = .ok (g.columnsAt level) :=
  countAt_eq _ _

theorem rowsAt_eq (level : UInt32) : rowsAt g level = .ok (g.rowsAt level) := countAt_eq _ _

theorem contains_eq (t : Tile) : contains g t = .ok (g.contains t) := by
  rw [contains, columnsAt_eq, rowsAt_eq]
  rfl

/-- There is a last cell to hold an index to, since no count is zero. -/
theorem one_le_countAt {roots : UInt32} (h : 0 < roots) (level : UInt32) :
    1 ≤ Grid.countAt roots level := by
  have hroots : 0 < roots.toNat := UInt32.lt_iff_toNat_lt.mp h
  have hpos : 0 < roots.toNat * 2 ^ level.toNat := Nat.mul_pos hroots (Nat.two_pow_pos _)
  rw [UInt32.le_iff_toNat_le, Grid.toNat_countAt, UInt32.toNat_one]
  omega

variable [Coordinate α]

theorem cellIndex_eq (distance cellSize : α) {count : UInt32} (h : 1 ≤ count) :
    cellIndex distance cellSize count = .ok (Grid.cellIndex distance cellSize count) := by
  rw [cellIndex, sub_eq h]
  rfl

theorem tileAt?_eq (x y : α) (level : UInt32) :
    tileAt? g x y level = .ok (g.tileAt? x y level) := by
  rw [tileAt?, Grid.tileAt?]
  by_cases hinside : g.extent.contains x y = true
  · have hcolumns : 1 ≤ g.columnsAt level := one_le_countAt g.rootColumns_pos level
    have hrows : 1 ≤ g.rowsAt level := one_le_countAt g.rootRows_pos level
    simp only [if_pos hinside, columnsAt_eq, rowsAt_eq, bind, Except.bind,
      cellIndex_eq _ _ hcolumns, cellIndex_eq _ _ hrows]
    rfl
  · rw [if_neg hinside, if_neg hinside]
    rfl

end

/-! ## Tiles -/

def parent? (t : Tile) : Exact (Option Tile) := do
  if t.level = 0 then return none
  let level ← sub t.level 1
  let column ← divide t.column 2
  let row ← divide t.row 2
  return some ⟨level, column, row⟩

def invertRow (rows row : UInt32) : Exact (Option UInt32) := do
  if row < rows then
    let above ← sub rows row
    return some (← sub above 1)
  else return none

theorem parent?_eq (t : Tile) : parent? t = .ok t.parent? := by
  rw [parent?, Tile.parent?]
  by_cases hroot : t.level = 0
  · rw [if_pos hroot, if_pos hroot]
    rfl
  · have hlevel : 1 ≤ t.level := by
      have hne : t.level.toNat ≠ 0 := fun h => hroot (UInt32.toNat_inj.mp h)
      rw [UInt32.le_iff_toNat_le, UInt32.toNat_one]
      omega
    rw [if_neg hroot, if_neg hroot, sub_eq hlevel, divide_eq (by decide), divide_eq (by decide)]
    rfl

theorem invertRow_eq (rows row : UInt32) :
    invertRow rows row = .ok (RasterOverlay.invertRow rows row) := by
  rw [invertRow, RasterOverlay.invertRow]
  by_cases h : row < rows
  · simp only [if_pos h, sub_eq (UInt32.le_of_lt h), sub_eq (one_le_sub_of_lt h), bind, Except.bind]
    rfl
  · rw [if_neg h, if_neg h]
    rfl

/-! ## Levels -/

def biased (level : UInt32) (bias : Int32) : Exact (Except TileError UInt32) := do
  let wide ← cast (fun n : UInt32 => n.toUInt64.toInt64) level
  let shift ← cast Int32.toInt64 bias
  let sum ← add wide shift
  if 0 ≤ sum ∧ sum ≤ 0xffffffff then
    return .ok (← cast (fun n : Int64 => n.toUInt64.toUInt32) sum)
  else return .error (.negativeLevel level bias)

def reversedLevel (maxLevel level : UInt32) : Exact UInt32 := do
  if level < maxLevel then
    let above ← sub maxLevel level
    sub above 1
  else return level

/-- The rows are counted only if the shift is one that a word has. -/
def flippedRow? (t : Tile) : Exact (Option UInt64) := do
  if t.level < 64 then
    let rows ← shiftLeft 1 (← cast UInt32.toUInt64 t.level)
    let used ← add (← cast UInt32.toUInt64 t.row) 1
    if used ≤ rows then return some (← sub rows used)
    else return none
  else return none

theorem biased_eq (level : UInt32) (bias : Int32) :
    biased level bias = .ok (Level.biased level bias) := by
  have hsum := Level.toInt_sum level bias
  have hwide : cast (fun n : UInt32 => n.toUInt64.toInt64) level =
      .ok level.toUInt64.toInt64 := by
    apply word_eq
    exact Level.toInt_level level
  have hshift : cast Int32.toInt64 bias = .ok bias.toInt64 := by
    apply word_eq
    exact Int32.toInt_toInt64 bias
  have hadd : add level.toUInt64.toInt64 bias.toInt64 =
      .ok (level.toUInt64.toInt64 + bias.toInt64) := by
    apply word_eq
    show (level.toUInt64.toInt64 + bias.toInt64).toInt =
      level.toUInt64.toInt64.toInt + bias.toInt64.toInt
    rw [hsum, Level.toInt_level, Int32.toInt_toInt64]
  simp only [biased, hwide, hshift, hadd, bind, Except.bind]
  by_cases hin : 0 ≤ level.toUInt64.toInt64 + bias.toInt64 ∧
      level.toUInt64.toInt64 + bias.toInt64 ≤ 0xffffffff
  · have hlow := Int64.le_iff_toInt_le.mp hin.1
    have hhigh := Int64.le_iff_toInt_le.mp hin.2
    rw [hsum, Int64.toInt_zero] at hlow
    rw [hsum, show (0xffffffff : Int64).toInt = 2 ^ 32 - 1 by decide] at hhigh
    obtain ⟨b, hb, hvalue⟩ := Level.biased_of_nonneg level bias hlow (by omega)
    have hrunning : Level.biased level bias =
        .ok (level.toUInt64.toInt64 + bias.toInt64).toUInt64.toUInt32 := if_pos hin
    cases hrunning.symm.trans hb
    -- the guard has shown that the cast keeps the sum
    have hcast : cast (fun n : Int64 => n.toUInt64.toUInt32)
        (level.toUInt64.toInt64 + bias.toInt64) =
        .ok (level.toUInt64.toInt64 + bias.toInt64).toUInt64.toUInt32 := by
      apply word_eq
      show ((level.toUInt64.toInt64 + bias.toInt64).toUInt64.toUInt32.toNat : ℤ) =
        (level.toUInt64.toInt64 + bias.toInt64).toInt
      rw [hvalue, hsum]
      omega
    rw [if_pos hin, hcast, hrunning]
    rfl
  · rw [if_neg hin, Level.biased, if_neg hin]
    rfl

theorem reversedLevel_eq (maxLevel level : UInt32) :
    reversedLevel maxLevel level = .ok (TemplateAddressing.reversedLevel maxLevel level) := by
  rw [reversedLevel, TemplateAddressing.reversedLevel]
  by_cases h : level < maxLevel
  · simp only [if_pos h, sub_eq (UInt32.le_of_lt h), sub_eq (one_le_sub_of_lt h), bind, Except.bind]
  · rw [if_neg h, if_neg h]
    rfl

theorem flippedRow?_eq (t : Tile) : flippedRow? t = .ok (TemplateAddressing.flippedRow? t) := by
  rw [flippedRow?, TemplateAddressing.flippedRow?]
  by_cases hlevel : t.level < 64
  · have hplaces : t.level.toUInt64.toNat < 64 := by
      rw [UInt32.toNat_toUInt64]
      exact UInt32.lt_iff_toNat_lt.mp hlevel
    have hpow : (1 : UInt64).toNat * 2 ^ t.level.toUInt64.toNat < 2 ^ 64 := by
      rw [UInt64.toNat_one, Nat.one_mul]
      exact Nat.pow_lt_pow_right (by decide) hplaces
    have hrow : t.row.toUInt64.toNat + (1 : UInt64).toNat < 2 ^ 64 := by
      have hlt := t.row.toNat_lt
      rw [UInt32.toNat_toUInt64, UInt64.toNat_one]
      omega
    simp only [if_pos hlevel, cast_toUInt64, shiftLeft_eq hplaces hpow, add_eq hrow, bind,
      Except.bind]
    by_cases hused : t.row.toUInt64 + 1 ≤ (1 : UInt64) <<< t.level.toUInt64
    · rw [if_pos hused, if_pos ⟨hlevel, hused⟩, sub_eq_of_long hused]
      rfl
    · rw [if_neg hused, if_neg fun h => hused h.2]
      rfl
  · rw [if_neg hlevel, if_neg fun h => hlevel h.1]
    rfl

/-! ## Subdomains -/

def shard (count : Nat) (t : Tile) : Exact Nat := do
  let level ← cast UInt32.toUInt64 t.level
  let column ← cast UInt32.toUInt64 t.column
  let row ← cast UInt32.toUInt64 t.row
  let sum ← add (← add level column) row
  remainder sum.toNat count

def select? (s : Subdomains) (t : Tile) : Exact (Option String) := do
  if s.isEmpty then return none
  let i ← shard s.names.length t
  return some (← entry s.names i)

theorem shard_eq {count : Nat} (h : count ≠ 0) (t : Tile) :
    shard count t = .ok (Subdomains.shard count t) := by
  have hlevel := t.level.toNat_lt
  have hcolumn := t.column.toNat_lt
  have hrow := t.row.toNat_lt
  have hfirst : t.level.toUInt64.toNat + t.column.toUInt64.toNat < 2 ^ 64 := by
    rw [UInt32.toNat_toUInt64, UInt32.toNat_toUInt64]
    omega
  have hsecond : (t.level.toUInt64 + t.column.toUInt64).toNat + t.row.toUInt64.toNat < 2 ^ 64 := by
    rw [UInt64.toNat_add, Nat.mod_eq_of_lt hfirst, UInt32.toNat_toUInt64, UInt32.toNat_toUInt64,
      UInt32.toNat_toUInt64]
    omega
  simp only [shard, cast_toUInt64, add_eq hfirst, add_eq hsecond, remainder_eq h, bind, Except.bind]
  rfl

theorem select?_eq (s : Subdomains) (t : Tile) : select? s t = .ok (s.select? t) := by
  rw [select?, Subdomains.select?]
  by_cases hempty : s.isEmpty = true
  · have hnames : s.names = [] := List.isEmpty_iff.mp hempty
    rw [if_pos hempty, hnames]
    rfl
  · have hcount : s.names.length ≠ 0 := by
      intro h
      exact hempty (List.isEmpty_iff.mpr (List.length_eq_zero_iff.mp h))
    have hturn : Subdomains.shard s.names.length t < s.names.length :=
      Nat.mod_lt _ (Nat.pos_of_ne_zero hcount)
    rw [if_neg hempty, List.getElem?_eq_getElem hturn]
    show (shard s.names.length t >>= _) = _
    rw [shard_eq hcount]
    show (entry s.names _ >>= _) = _
    rw [entry_eq hturn]
    rfl

end Exact

end RasterOverlay
