import Mathlib
import RasterOverlay.Proofs.TileIndices

/-!
How the requests of an overlay are shared among its subdomains. A tile's place in the list depends on
the sum of its three coordinates alone, so neighbours in a row or in a column have places next to each
other, and a run of as many tiles as there are subdomains takes each of them once.
-/

namespace RasterOverlay

namespace Subdomains

/-- A tile's subdomain is the one at this place of the list. -/
structure Takes (s : Subdomains) (t : Tile) (place : Fin s.names.length) : Prop where
  turn : shard s.names.length t = place
  name : s.select? t = some s.names[place]

/-- The indices of a run of `count` neighbours. -/
def InRun (first count : ℕ) (index : UInt32) : Prop :=
  first ≤ index.toNat ∧ index.toNat < first + count

variable {s : Subdomains} {t t' : Tile} {place : Fin s.names.length}

/-- The sum of the coordinates decides about the place. -/
theorem takes_iff :
    s.Takes t place ↔ (t.level.toNat + t.column.toNat + t.row.toNat) % s.names.length = place := by
  constructor
  · intro h
    rw [← shard_eq]
    exact h.turn
  · intro h
    have hturn : shard s.names.length t = place := by rw [shard_eq, h]
    refine ⟨hturn, ?_⟩
    rw [select?, hturn]
    exact List.getElem?_eq_getElem place.isLt

theorem existsUnique_takes (hs : s.names ≠ []) (t : Tile) : ∃! place, s.Takes t place := by
  have hlt := Nat.mod_lt (t.level.toNat + t.column.toNat + t.row.toNat)
    (List.length_pos_iff.mpr hs)
  refine ⟨⟨_, hlt⟩, takes_iff.mpr rfl, ?_⟩
  intro place hplace
  exact Fin.ext (takes_iff.mp hplace).symm

/-- Among as many successive numbers as there are places, each place is hit once. -/
theorem existsUnique_index {count first place : ℕ} (base : ℕ) (hplace : place < count)
    (hfits : first + count ≤ 2 ^ 32) :
    ∃! index : UInt32, InRun first count index ∧ (base + index.toNat) % count = place := by
  -- The sums of a run are successive numbers again, beginning at another one.
  have hsum : ∀ index, InRun first count index →
      base + index.toNat ∈ Finset.Ico (base + first) (base + first + count) := by
    intro index hindex
    obtain ⟨hlow, hhigh⟩ := hindex
    rw [Finset.mem_Ico]
    omega
  have hhit : place ∈ (Finset.Ico (base + first) (base + first + count)).image (· % count) := by
    rw [Nat.image_Ico_mod]
    exact Finset.mem_range.mpr hplace
  obtain ⟨sum, hmem, hvalue⟩ := Finset.mem_image.mp hhit
  obtain ⟨hlow, hhigh⟩ := Finset.mem_Ico.mp hmem
  have hindex : (UInt32.ofNat (sum - base)).toNat = sum - base :=
    UInt32.toNat_ofNat_of_lt' (by show sum - base < 2 ^ 32; omega)
  refine ⟨UInt32.ofNat (sum - base), ⟨?_, ?_⟩, ?_⟩
  · rw [InRun, hindex]
    omega
  · rw [hindex, Nat.add_sub_cancel' (by omega)]
    exact hvalue
  -- No two of `count` successive numbers have the same remainder.
  · rintro index ⟨hrun, hindexValue⟩
    have hsame : base + index.toNat = sum :=
      Nat.mod_injOn_Ico (base + first) count (hsum index hrun) hmem (hindexValue.trans hvalue.symm)
    apply UInt32.toNat_inj.mp
    omega

theorem existsUnique_column (level row : UInt32) {first : ℕ}
    (hfits : first + s.names.length ≤ 2 ^ 32) (place : Fin s.names.length) :
    ∃! column, InRun first s.names.length column ∧ s.Takes ⟨level, column, row⟩ place := by
  have hindex := existsUnique_index (level.toNat + row.toNat) place.isLt hfits
  simpa only [takes_iff, Nat.add_right_comm] using hindex

theorem existsUnique_row (level column : UInt32) {first : ℕ}
    (hfits : first + s.names.length ≤ 2 ^ 32) (place : Fin s.names.length) :
    ∃! row, InRun first s.names.length row ∧ s.Takes ⟨level, column, row⟩ place := by
  have hindex := existsUnique_index (level.toNat + column.toNat) place.isLt hfits
  simpa only [takes_iff] using hindex

/-- Every tile takes one subdomain of a list that is not empty, the same one as any tile whose
coordinates have the same sum up to multiples of the length of the list. As many neighbours in a row, or
in a column, as the list is long take each of its places once. -/
theorem turns_are_fair (s : Subdomains) (hs : s.names ≠ []) :
    (∀ t, ∃! place, s.Takes t place) ∧
    (∀ t t' : Tile, t.level.toNat + t.column.toNat + t.row.toNat ≡
        t'.level.toNat + t'.column.toNat + t'.row.toNat [MOD s.names.length] →
      ∀ place, s.Takes t place ↔ s.Takes t' place) ∧
    ∀ (level : UInt32) (first : ℕ), first + s.names.length ≤ 2 ^ 32 → ∀ place,
      (∀ row, ∃! column,
        InRun first s.names.length column ∧ s.Takes ⟨level, column, row⟩ place) ∧
      ∀ column, ∃! row,
        InRun first s.names.length row ∧ s.Takes ⟨level, column, row⟩ place := by
  refine ⟨existsUnique_takes hs, ?_, ?_⟩
  · intro t t' hsums place
    rw [takes_iff, takes_iff, hsums]
  · intro level first hfits place
    exact ⟨fun row => existsUnique_column level row hfits place,
      fun column => existsUnique_row level column hfits place⟩

/-- The last three columns of all: in 32 bits their sums would begin anew. -/
theorem turns_are_fair_at_the_last_columns :
    let s : Subdomains := ⟨["a", "b", "c"]⟩
    let last : UInt32 := 4294967295
    s.select? ⟨last, last, last⟩ = some "a" ∧
      ∀ place : Fin 3, ∃! column, InRun (2 ^ 32 - 3) 3 column ∧
        s.Takes ⟨last, column, last⟩ place := by
  intro s last
  have hfair := (turns_are_fair s (by decide)).2.2 last (2 ^ 32 - 3) (by decide)
  exact ⟨by decide +kernel, fun place => (hfair place).1 last⟩

end Subdomains

end RasterOverlay
