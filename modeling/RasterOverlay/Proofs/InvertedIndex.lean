import RasterOverlay.Proofs.ServiceUrl
import RasterOverlay.Proofs.TemplateUrl

/-!
Indices that are counted from the other edge of the grid. The count of a level is held to the
greatest word, and an inverted index is one less than the held count less the index. It is the exact
one at every level that is asked for if there are at most three root tiles in its direction.
-/

namespace RasterOverlay

/-- The index `k` is the index `i` counted back in a direction with so many root tiles. -/
structure CountedBack (roots level i k : Nat) : Prop where
  held : (k : Int) = (min (roots * 2 ^ level) (2 ^ 32 - 1) : Nat) - 1 - i
  exact_iff : (k : Int) = roots * 2 ^ level - 1 - i ↔ roots * 2 ^ level < 2 ^ 32
  exact_of_few_roots : roots ≤ 3 → (k : Int) = roots * 2 ^ level - 1 - i

theorem CountedBack.of_lt {roots level i : Nat} (count : Nat) (hlevel : level ≤ 30)
    (hcount : count = min (roots * 2 ^ level) (2 ^ 32 - 1)) (hi : i < count) :
    CountedBack roots level i (count - 1 - i) := by
  have hpow : 2 ^ level ≤ 2 ^ 30 := Nat.pow_le_pow_right (by decide) hlevel
  have hcast : ((roots * 2 ^ level : Nat) : Int) = (roots : Int) * 2 ^ level := by push_cast; rfl
  have hexact : ((count - 1 - i : Nat) : Int) = roots * 2 ^ level - 1 - i ↔
      roots * 2 ^ level < 2 ^ 32 := by
    rw [← hcast]
    omega
  refine ⟨by omega, hexact, ?_⟩
  · -- Three root tiles doubled thirty times still fit in a word.
    intro hfew
    have hfits : roots * 2 ^ level ≤ 3 * 2 ^ 30 := Nat.mul_le_mul hfew hpow
    exact hexact.mpr (by omega)

namespace Grid

variable (g : Grid Float) {t : Tile}

theorem countedBack_column (ht : t.level.toNat ≤ 30)
    (hi : t.column.toNat < (g.columnsAt t.level).toNat) :
    CountedBack g.rootColumns.toNat t.level.toNat t.column.toNat
      ((g.columnsAt t.level).toNat - 1 - t.column.toNat) :=
  .of_lt _ ht (toNat_countAt g.rootColumns t.level) hi

theorem countedBack_row (ht : t.level.toNat ≤ 30) (hi : t.row.toNat < (g.rowsAt t.level).toNat) :
    CountedBack g.rootRows.toNat t.level.toNat t.row.toNat
      ((g.rowsAt t.level).toNat - 1 - t.row.toNat) :=
  .of_lt _ ht (toNat_countAt g.rootRows t.level) hi

end Grid

namespace Overlay

/-- What a placeholder of a template stands for, given the two inverted indices. -/
def invertedText (o : Overlay) (t : Tile) (x y : Nat) (name : String) : String :=
  if name = "reverseX" then o.padding.written name x
  else if name = "reverseY" then o.padding.written name y
  else o.fieldText t name

theorem fieldText_eq_invertedText (o : Overlay) (t : Tile) (name : String) :
    o.fieldText t name =
      o.invertedText t ((o.placement.grid.columnsAt t.level).toNat - 1 - t.column.toNat)
        ((o.placement.grid.rowsAt t.level).toNat - 1 - t.row.toNat) name := by
  rw [invertedText]
  by_cases hx : name = "reverseX"
  · rw [if_pos hx, hx]
    rfl
  rw [if_neg hx]
  by_cases hy : name = "reverseY"
  · rw [if_pos hy, hy]
    rfl
  · rw [if_neg hy]

end Overlay

namespace TileLoader

variable {o : Overlay} {l : TileLoader} {t : Tile} {u : String}

theorem level_le_of_url (hu : l.url t = .ok u) : t.level.toNat ≤ 30 := by
  refine Nat.le_of_not_lt fun hdeep => ?_
  rw [url_of_too_deep l hdeep] at hu
  contradiction

/-- The inverted indices of a template are counted back in the grid. -/
theorem inverted_of_template (hl : ofOverlay o = .ok l) (hs : o.source = .template)
    (hu : l.url t = .ok u) :
    ∃ x y : Nat,
      ("reverseX" ∈ Template.placeholders o.url →
        CountedBack o.placement.grid.rootColumns.toNat t.level.toNat t.column.toNat x) ∧
      ("reverseY" ∈ Template.placeholders o.url →
        CountedBack o.placement.grid.rootRows.toNat t.level.toNat t.row.toNat y) ∧
      u = (Template.cut o.url).fill ((Template.placeholders o.url).map (o.invertedText t x y)) := by
  have ht := level_le_of_url hu
  rw [url_eq_of_template hl hs ht, elim_eq_ok_iff, List.findSome?_eq_none_iff] at hu
  -- A placeholder of the template has no fault, so the index lies in the grid.
  obtain ⟨hfault, rfl⟩ := hu
  refine ⟨_, _, ?_, ?_, congrArg _ (List.map_congr_left fun name _ =>
    o.fieldText_eq_invertedText t name)⟩
  · intro hx
    have hnone := hfault _ hx
    rw [o.fieldFault?_reversedColumn, ite_some_eq_none_iff] at hnone
    exact Grid.countedBack_column _ ht (Nat.lt_of_not_le hnone.1)
  · intro hy
    have hnone := hfault _ hy
    rw [o.fieldFault?_reversedRow, ite_some_eq_none_iff] at hnone
    exact Grid.countedBack_row _ ht (Nat.lt_of_not_le hnone.1)

/-- The row of a service is counted back in the grid. -/
theorem inverted_of_wmts (hl : ofOverlay o = .ok l) (hs : o.source = .wmts)
    (hu : l.url t = .ok u) :
    ∃ y : Nat, CountedBack o.placement.grid.rootRows.toNat t.level.toNat t.row.toNat y ∧
      u = o.serviceUrl (Template.cut o.url) t y := by
  have ht := level_le_of_url hu
  rw [url_eq_of_wmts hl hs, elim_eq_ok_iff] at hu
  simp only [Overlay.serviceFault?, ite_some_eq_none_iff, Decidable.not_not] at hu
  obtain ⟨⟨-, -, -, -, ⟨-, hrow⟩, -⟩, rfl⟩ := hu
  exact ⟨_, Grid.countedBack_row _ ht hrow, rfl⟩

/-- Every inverted index in the URL of a tile is counted back in the grid: the two of a template in
front of their padding, and the row of a service in both of its styles. -/
theorem url_counts_back (o : Overlay) (l : TileLoader) (t : Tile) (u : String)
    (hl : ofOverlay o = .ok l) (hu : l.url t = .ok u) :
    ∃ c : Template.Cut, c.At o.url ∧ ∃ x y : Nat,
      match o.source with
      | .template =>
        ("reverseX" ∈ c.names →
          CountedBack o.placement.grid.rootColumns.toNat t.level.toNat t.column.toNat x) ∧
        ("reverseY" ∈ c.names →
          CountedBack o.placement.grid.rootRows.toNat t.level.toNat t.row.toNat y) ∧
        u = c.fill (c.names.map (o.invertedText t x y))
      | .wmts =>
        CountedBack o.placement.grid.rootRows.toNat t.level.toNat t.row.toNat y ∧
        u = o.serviceUrl c t y := by
  refine ⟨Template.cut o.url, Template.cut_at o.url, ?_⟩
  rw [Template.names_cut]
  cases hs : o.source with
  | template => exact inverted_of_template hl hs hu
  | wmts =>
    obtain ⟨y, hy⟩ := inverted_of_wmts hl hs hu
    exact ⟨0, y, hy⟩

/-- With two root columns the columns of level 30 are counted back exactly. -/
theorem url_counts_back_from_two_roots :
    let o : Overlay := { url := "{reverseX}" }
    ∃ l, ofOverlay o = .ok l ∧ l.url ⟨30, 5, 0⟩ = .ok "2147483642" ∧
      ∃ c : Template.Cut, c.At o.url ∧ ∃ x y : Nat, CountedBack 2 30 5 x ∧
        "2147483642" = c.fill (c.names.map (o.invertedText ⟨30, 5, 0⟩ x y)) := by
  intro o
  have haccepted := (ofOverlay_eq_ok_iff_of_template (o := o) rfl _).mpr ⟨by decide +kernel, rfl⟩
  have hfault : (Template.placeholders o.url).findSome? (o.fieldFault? ⟨30, 5, 0⟩) = none := by
    decide +kernel
  have htext : (Template.cut o.url).fill
      ((Template.placeholders o.url).map (o.fieldText ⟨30, 5, 0⟩)) = "2147483642" := by
    decide +kernel
  have hurl := url_eq_of_template (t := ⟨30, 5, 0⟩) haccepted rfl (by decide)
  rw [hfault, htext] at hurl
  obtain ⟨c, hc, x, y, hx, -, hfill⟩ := url_counts_back o _ ⟨30, 5, 0⟩ _ haccepted hurl
  have hmem : "reverseX" ∈ c.names := by
    rw [hc.unique (Template.cut_at _)]
    decide +kernel
  exact ⟨_, haccepted, hurl, c, hc, x, y, hx hmem, hfill⟩

/-- With four root columns the count of level 30 is held, and the column is not the exact one. -/
theorem url_of_held_count :
    let o : Overlay := { url := "{reverseX}", grid := some (.ofRoots ⟨0, 0, 4, 1⟩ 4 1) }
    ∃ l, ofOverlay o = .ok l ∧ o.placement.grid.rootColumns.toNat = 4 ∧
      l.url ⟨30, 0, 0⟩ = .ok "4294967294" ∧ "4294967294" ≠ toString (4 * 2 ^ 30 - 1 - 0) := by
  intro o
  have haccepted := (ofOverlay_eq_ok_iff_of_template (o := o) rfl _).mpr ⟨by decide +kernel, rfl⟩
  have hfault : (Template.placeholders o.url).findSome? (o.fieldFault? ⟨30, 0, 0⟩) = none := by
    decide +kernel
  have htext : (Template.cut o.url).fill
      ((Template.placeholders o.url).map (o.fieldText ⟨30, 0, 0⟩)) = "4294967294" := by
    decide +kernel
  refine ⟨_, haccepted, rfl, ?_, by decide +kernel⟩
  rw [url_eq_of_template haccepted rfl (by decide), hfault, htext]
  rfl

end TileLoader

end RasterOverlay
