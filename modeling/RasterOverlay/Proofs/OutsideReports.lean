import Mathlib
import RasterOverlay.Proofs.ServiceUrl
import RasterOverlay.Proofs.TemplateUrl

/-!
When a tile is reported to be outside the grid. The report names the tile that was asked for, and it
is true with one exception: a template that flips rows flips them in a square pyramid, whatever the
grid is, and it reports a tile that has no row in that pyramid. Nothing here depends on how an
addressing was made.
-/

namespace RasterOverlay

namespace Template

variable {ε : Type} {replace : String → Except ε String} {e : ε}

/-- A failure of a template is the failure of one of its placeholders. -/
theorem exists_of_substitute_eq_error {source : String}
    (h : substitute replace source = .error e) :
    ∃ name ∈ placeholders source, replace name = .error e := by
  rw [substitute_eq_fill] at h
  exact exists_of_mapM_eq_error (map_eq_error_iff.mp h)

end Template

namespace TemplateAddressing

variable {a : TemplateAddressing} {g : Grid Float} {t t' : Tile}

/-- Rows are flipped in a pyramid with one root row, in words of 64 bits. -/
theorem flippedRow?_eq_none_iff (t : Tile) :
    flippedRow? t = none ↔ 64 ≤ t.level.toNat ∨ 2 ^ t.level.toNat ≤ t.row.toNat := by
  by_cases hlevel : t.level.toNat < 64
  · by_cases hrow : t.row.toNat < 2 ^ t.level.toNat
    · obtain ⟨r, hr, -⟩ := flippedRow?_of_lt hlevel hrow
      rw [hr]
      simp only [reduceCtorEq, false_iff]
      omega
    · simp only [flippedRow?_of_le hlevel (Nat.not_lt.mp hrow), true_iff]
      omega
  · have hdeep : ¬ t.level < 64 := fun h => hlevel (UInt32.lt_iff_toNat_lt.mp h)
    have hnone : flippedRow? t = none := if_neg fun h => hdeep h.1
    simp only [hnone, true_iff]
    omega

/-- The template asks for a flipped row, and the tile has none. -/
structure MissesFlippedRow (a : TemplateAddressing) (t : Tile) : Prop where
  flips : a.flipRows = true
  asked : "y" ∈ Template.placeholders a.template
  missing : 64 ≤ t.level.toNat ∨ 2 ^ t.level.toNat ≤ t.row.toNat

/-- An index that cannot be counted back lies beyond the grid, and nothing else is reported of it. -/
theorem outside_of_inverted {count index : UInt32}
    (h : (invertRow count index).elim (.error (.outsideGrid t)) (fun i => .ok i.toUInt64) =
      (.error (.outsideGrid t') : Except TileError UInt64)) :
    t' = t ∧ count.toNat ≤ index.toNat := by
  obtain ⟨hnone, hreport⟩ := getOrFail_eq_error_iff.mp h
  cases hreport
  exact ⟨rfl, (invertRow_eq_none_iff _ _).mp hnone⟩

theorem outside_of_number {n : TileNumber} (h : a.number g t n = .error (.outsideGrid t')) :
    t' = t ∧ (g.contains t = true → n = .row ∧ a.flipRows = true ∧ flippedRow? t = none) := by
  cases n with
  | column => cases h
  | reversedLevel => cases h
  | level => cases Level.error_of_biased (map_eq_error_iff.mp h)
  | row =>
    simp only [number] at h
    by_cases hflips : a.flipRows = true
    · rw [if_pos hflips] at h
      obtain ⟨hnone, hreport⟩ := getOrFail_eq_error_iff.mp h
      cases hreport
      exact ⟨rfl, fun _ => ⟨rfl, hflips, hnone⟩⟩
    · rw [if_neg hflips] at h
      cases h
  | reversedColumn =>
    obtain ⟨hsame, hbeyond⟩ := outside_of_inverted h
    refine ⟨hsame, fun hin => ?_⟩
    have hcolumn := ((g.contains_iff t).mp hin).1
    exact absurd hbeyond (Nat.not_le.mpr hcolumn)
  | reversedRow =>
    obtain ⟨hsame, hbeyond⟩ := outside_of_inverted h
    refine ⟨hsame, fun hin => ?_⟩
    have hrow := ((g.contains_iff t).mp hin).2
    exact absurd hbeyond (Nat.not_le.mpr hrow)

theorem ofName_eq_row {name : String} (h : TemplateField.ofName name = .number .row) :
    name = "y" := by
  have hnames : ∀ known ∈ Overlay.fieldNames,
      TemplateField.ofName known = .number .row → known = "y" := by decide
  exact hnames name (TemplateField.mem_fieldNames h) h

theorem outside_of_value {name : String} (h : a.value g t name = .error (.outsideGrid t')) :
    t' = t ∧ (g.contains t = true → name = "y" ∧ a.flipRows = true ∧ flippedRow? t = none) := by
  simp only [value] at h
  cases hname : TemplateField.ofName name with
  | number n =>
    rw [hname] at h
    obtain ⟨hsame, hrow⟩ := outside_of_number (map_eq_error_iff.mp h)
    refine ⟨hsame, fun hin => ?_⟩
    obtain ⟨rfl, hflipped⟩ := hrow hin
    exact ⟨ofName_eq_row hname, hflipped⟩
  | subdomain =>
    rw [hname] at h
    obtain ⟨-, hreport⟩ := getOrFail_eq_error_iff.mp h
    cases hreport
  | tileWidth =>
    rw [hname] at h
    cases h
  | tileHeight =>
    rw [hname] at h
    cases h
  | unknown =>
    rw [hname] at h
    cases h

theorem outside_of_url (h : a.url g t = .error (.outsideGrid t')) :
    t' = t ∧ (g.contains t = true → a.MissesFlippedRow t) := by
  obtain ⟨name, hmem, hvalue⟩ := Template.exists_of_substitute_eq_error h
  obtain ⟨hsame, hrow⟩ := outside_of_value hvalue
  refine ⟨hsame, fun hin => ?_⟩
  obtain ⟨rfl, hflips, hmissing⟩ := hrow hin
  exact ⟨hflips, hmem, (flippedRow?_eq_none_iff t).mp hmissing⟩

end TemplateAddressing

namespace Wmts.Addressing

variable {a : Addressing} {g : Grid Float} {t t' : Tile}

theorem outside_of_matrixCell (h : a.matrixCell g t = .error (.outsideGrid t')) :
    t' = t ∧ g.contains t = false := by
  rcases error_of_matrixCell h with hlabel | ⟨hreport, hout⟩
  · rcases error_of_matrixLabel hlabel with hlevel | ⟨n, hmissing⟩
    · cases hlevel
    · cases hmissing
  · cases hreport
    exact ⟨rfl, hout⟩

theorem queryUrl_ne_outside (cell : MatrixCell) :
    a.queryUrl t cell ≠ .error (.outsideGrid t') := by
  intro h
  obtain hbase | ⟨base, -, hquery⟩ := bind_eq_error_iff.mp h
  · obtain ⟨name, -, hname⟩ := Template.exists_of_substitute_eq_error hbase
    split at hname
    · cases error_of_subdomain hname
    · cases hname
  · cases hquery

theorem pathUrl_ne_outside (cell : MatrixCell) :
    a.pathUrl t cell ≠ .error (.outsideGrid t') := by
  intro h
  obtain ⟨name, -, hname⟩ := Template.exists_of_substitute_eq_error h
  simp only [pathValue] at hname
  split_ifs at hname
  cases error_of_subdomain hname

theorem outside_of_tileUrl (h : a.tileUrl g t = .error (.outsideGrid t')) :
    t' = t ∧ g.contains t = false := by
  rw [tileUrl, bind_eq_error_iff] at h
  obtain hcell | ⟨cell, -, h⟩ := h
  · exact outside_of_matrixCell hcell
  cases hstyle : a.style with
  | query =>
    rw [hstyle] at h
    exact absurd h (queryUrl_ne_outside cell)
  | path =>
    rw [hstyle] at h
    exact absurd h (pathUrl_ne_outside cell)

end Wmts.Addressing

namespace Addressing

/-- Only a template flips rows. -/
def MissesFlippedRow : Addressing → Tile → Prop
  | template a, t => a.MissesFlippedRow t
  | wmts _, _ => False

/-- If an addressing reports a tile to be outside the grid, it is the tile that was asked for, and it
is outside unless the addressing is a template that asks for its flipped row and there is none. -/
theorem outside_of_url_eq_error (a : Addressing) (p : Placement) (t t' : Tile)
    (h : a.url p t = .error (.outsideGrid t')) :
    t' = t ∧ (p.grid.contains t = false ∨ a.MissesFlippedRow t) := by
  cases a with
  | template a =>
    obtain ⟨hsame, hmisses⟩ := TemplateAddressing.outside_of_url h
    refine ⟨hsame, ?_⟩
    cases hin : p.grid.contains t with
    | false => exact .inl rfl
    | true => exact .inr (hmisses hin)
  | wmts a =>
    obtain ⟨hsame, hout⟩ := Wmts.Addressing.outside_of_tileUrl h
    exact ⟨hsame, .inl hout⟩

/-- A row that is counted back from the north, and that the grid does not have. -/
theorem outside_of_url_eq_error_beyond_the_rows :
    let o : Overlay := { url := "{x}/{reverseY}" }
    ∃ a, TemplateAddressing.ofOverlay o = .ok a ∧
      (Addressing.template a).url o.placement ⟨1, 3, 2⟩ = .error (.outsideGrid ⟨1, 3, 2⟩) ∧
      o.placement.grid.contains ⟨1, 3, 2⟩ = false := by
  intro o
  have haccepted := (TemplateAddressing.ofOverlay_eq_ok_iff o _).mpr ⟨by decide +kernel, rfl⟩
  have hreported : (Addressing.template (TemplateAddressing.ofFields o)).url o.placement
      ⟨1, 3, 2⟩ = .error (.outsideGrid ⟨1, 3, 2⟩) := by decide +kernel
  refine ⟨_, haccepted, hreported, ?_⟩
  rcases (outside_of_url_eq_error _ _ _ _ hreported).2 with hout | hmisses
  · exact hout
  · cases hmisses.flips

/-- Flipped rows are reported outside that are in the grid: with two root rows the northern root tile
has none in the square pyramid, and level 64 has no count of them in a word. -/
theorem outside_reported_inside :
    let o : Overlay :=
      { url := "https://t/{y}", flipRows := true, grid := some (.ofRoots ⟨0, 0, 1, 2⟩ 1 2) }
    ∃ a, TemplateAddressing.ofOverlay o = .ok a ∧
      o.placement.grid.contains ⟨0, 0, 1⟩ = true ∧
      (Addressing.template a).url o.placement ⟨0, 0, 1⟩ = .error (.outsideGrid ⟨0, 0, 1⟩) ∧
      o.placement.grid.contains ⟨64, 0, 0⟩ = true ∧
      (Addressing.template a).url o.placement ⟨64, 0, 0⟩ = .error (.outsideGrid ⟨64, 0, 0⟩) := by
  intro o
  have haccepted := (TemplateAddressing.ofOverlay_eq_ok_iff o _).mpr ⟨by decide +kernel, rfl⟩
  exact ⟨_, haccepted, by decide +kernel, by decide +kernel, by decide +kernel, by decide +kernel⟩

end Addressing

end RasterOverlay
