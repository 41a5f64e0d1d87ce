import RasterOverlay.Proofs.NamedPlaces
import RasterOverlay.Proofs.OutsideReports

/-!
Two ways of counting rows from the north. Flipped rows are counted in a square pyramid, in words of 64
bits; inverted rows are counted in the grid, whose counts are held to words of 32 bits. On a grid with
one root row both count the same, and both fail on the same tiles, down to level 31, where the count of
the rows is still below the greatest word. So a template with flipped rows may as well ask for inverted
ones, whatever else stands in it.
-/

namespace RasterOverlay

/-- One root row doubled at most 31 times stays below the greatest count. -/
theorem Grid.toNat_rowsAt_of_one_root {g : Grid Float} {level : UInt32} (hroot : g.rootRows = 1)
    (hlevel : level.toNat ≤ 31) : (g.rowsAt level).toNat = 2 ^ level.toNat := by
  have hpow : 2 ^ level.toNat ≤ 2 ^ 31 := Nat.pow_le_pow_right (by decide) hlevel
  rw [rowsAt, toNat_countAt, hroot, UInt32.toNat_one, Nat.one_mul]
  omega

namespace Template

/-- The cut with one name in all of its places. -/
def Cut.allNamed (c : Cut) (name : String) : Cut :=
  ⟨c.lead, c.fields.map fun field => (name.toList, field.2)⟩

theorem Cut.renamed_allNamed (c : Cut) (name : String) :
    c.Renamed (fun _ name' => name' = name) (c.allNamed name) := by
  refine ⟨rfl, ?_⟩
  rw [allNamed]
  induction c.fields with
  | nil => exact .nil
  | cons field fields ih => exact .cons ⟨String.ofList_toList, rfl⟩ ih

end Template

namespace TemplateAddressing

variable {a : TemplateAddressing} {g : Grid Float} {t : Tile}

theorem flippedRow?_eq_invertRow (hroot : g.rootRows = 1) (ht : t.level.toNat ≤ 31) :
    flippedRow? t = (invertRow (g.rowsAt t.level) t.row).map UInt32.toUInt64 := by
  have hrows := Grid.toNat_rowsAt_of_one_root hroot ht
  -- Both count in the same number of rows, one in 64 bits and the other in 32.
  by_cases hin : t.row.toNat < 2 ^ t.level.toNat
  · have hin' : t.row.toNat < (g.rowsAt t.level).toNat := by omega
    obtain ⟨flipped, hflipped, hvalue⟩ := flippedRow?_of_lt (by omega) hin
    obtain ⟨inverted, hinverted, hvalue'⟩ := invertRow_of_lt hin'
    rw [hflipped, hinverted, Option.map_some, Option.some.injEq]
    apply UInt64.toNat_inj.mp
    rw [UInt32.toNat_toUInt64]
    omega
  · rw [flippedRow?_of_le (by omega) (by omega), invertRow_of_le (by omega), Option.map_none]

/-- The addressing of a template that neither flips rows nor cites its old text. -/
def unflipped (a : TemplateAddressing) (template : String) : TemplateAddressing :=
  { a with template := template, flipRows := false }

variable {template : String}

/-- Flipping is a matter of the row only. -/
theorem number_unflipped {n : TileNumber} (hn : n ≠ .row) :
    (a.unflipped template).number g t n = a.number g t n :=
  number_congr rfl rfl fun hrow => absurd hrow hn

theorem number_row_eq_reversedRow (hflip : a.flipRows = true) (hroot : g.rootRows = 1)
    (ht : t.level.toNat ≤ 31) : a.number g t .row = a.number g t .reversedRow := by
  simp only [number, hflip, if_true]
  rw [flippedRow?_eq_invertRow hroot ht]
  cases invertRow (g.rowsAt t.level) t.row with
  | none => rfl
  | some row => rfl

/-- A number that a tile does not have is reported without the template. -/
theorem citing_of_number {n : TileNumber} {e : TileError} (h : a.number g t n = .error e)
    (url : String) : e.citing url = e := by
  cases n with
  | column => cases h
  | reversedLevel => cases h
  | level =>
    obtain rfl := Level.error_of_biased (map_eq_error_iff.mp h)
    rfl
  | reversedColumn =>
    obtain ⟨-, rfl⟩ := getOrFail_eq_error_iff.mp h
    rfl
  | reversedRow =>
    obtain ⟨-, rfl⟩ := getOrFail_eq_error_iff.mp h
    rfl
  | row =>
    rw [number] at h
    by_cases hflips : a.flipRows = true
    · rw [if_pos hflips] at h
      obtain ⟨-, rfl⟩ := getOrFail_eq_error_iff.mp h
      rfl
    · rw [if_neg hflips] at h
      cases h

theorem mapError_padded (n : TileNumber) (pad : UInt64 → String) (url : String) :
    ((a.number g t n).map pad).mapError (.citing url) = (a.number g t n).map pad := by
  cases h : a.number g t n with
  | ok m => rfl
  | error e => exact congrArg Except.error (citing_of_number h url)

/-- All placeholders but that of the row have the same value with and without flipped rows. -/
theorem value_unflipped {name : String} (hname : name ≠ "y") :
    (a.unflipped template).value g t name = (a.value g t name).mapError (.citing template) := by
  rw [value, value]
  cases hfield : TemplateField.ofName name with
  | number n =>
    have hn : n ≠ .row := by
      rintro rfl
      exact hname (ofName_eq_row hfield)
    dsimp only
    rw [mapError_padded, number_unflipped hn]
    rfl
  | subdomain =>
    cases hselect : a.subdomains.select? t with
    | none => simp only [unflipped, hselect]; rfl
    | some s => simp only [unflipped, hselect]; rfl
  | tileWidth => rfl
  | tileHeight => rfl
  | unknown => rfl

/-- The row from the north is flipped in one template and inverted in the other. -/
theorem value_inverted (hflip : a.flipRows = true)
    (hpadding : a.padding.template? "y" = a.padding.template? "reverseY")
    (hroot : g.rootRows = 1) (ht : t.level.toNat ≤ 31) :
    (a.unflipped template).value g t "reverseY" =
      (a.value g t "y").mapError (.citing template) := by
  have hflipped : TemplateField.ofName "y" = .number .row := by decide
  have hinverted : TemplateField.ofName "reverseY" = .number .reversedRow := by decide
  have hpad : (a.unflipped template).padding.pad "reverseY" = a.padding.pad "y" :=
    Padding.pad_congr hpadding.symm
  rw [value, value, hflipped, hinverted]
  dsimp only
  rw [mapError_padded, number_unflipped (by decide), hpad, number_row_eq_reversedRow hflip hroot ht]

theorem isName_reversedRow : Template.IsName "reverseY" :=
  ⟨by decide, List.all_eq_true.mp (by decide)⟩

theorem url_unflipped (hflip : a.flipRows = true)
    (hpadding : a.padding.template? "y" = a.padding.template? "reverseY")
    (hroot : g.rootRows = 1) (ht : t.level.toNat ≤ 31)
    (htemplate : template =
      String.ofList ((Template.cutNamed (· == "y") a.template).allNamed "reverseY").text) :
    (a.unflipped template).url g t = (a.url g t).mapError (.citing template) := by
  have htext : ((Template.cutNamed (· == "y") a.template).allNamed "reverseY").text =
      template.toList := by
    rw [htemplate, String.toList_ofList]
  have hparts := Template.parts_renamed (by rintro _ _ rfl _; exact isName_reversedRow)
    (Template.Cut.renamed_allNamed (Template.cutNamed (· == "y") a.template) "reverseY") htext
  apply Template.substitute_renamed _ hparts
  intro name name' hname
  rw [Template.OnlyPicked] at hname
  by_cases hrow : name = "y"
  · rw [if_pos (beq_iff_eq.mpr hrow)] at hname
    rw [hrow, hname]
    exact value_inverted hflip hpadding hroot ht
  · rw [if_neg (by simpa using hrow)] at hname
    rw [hname]
    exact value_unflipped hrow

end TemplateAddressing

/-- With one root row, a template with flipped rows does what the same template does without them if
each of its placeholders `y` is rewritten to `reverseY`: the two can be made together, and for each
tile down to level 31, in the grid or not, they have the same URL or fail alike, apart from the template
that a failure may cite. -/
theorem Addressing.flipped_rows_eq_inverted_rows (o : Overlay) (p : Placement)
    (hflip : o.flipRows = true) (hasked : Template.mentions o.url "reverseY" = false)
    (hpadding : o.padding.template? "y" = o.padding.template? "reverseY")
    (hroot : p.grid.rootRows = 1) :
    ∃ c : Template.Cut, c.AtNamed (· == "y") o.url ∧
      ∃ a a' : TemplateAddressing, TemplateAddressing.ofOverlay o = .ok a ∧
        TemplateAddressing.ofOverlay
          { o with url := String.ofList (c.allNamed "reverseY").text, flipRows := false } = .ok a' ∧
        ∀ t : Tile, t.level.toNat ≤ 31 → (Addressing.template a').url p t =
          ((Addressing.template a).url p t).mapError (.citing a'.template) := by
  refine ⟨Template.cutNamed (· == "y") o.url, Template.cutNamed_at _ _, .ofFields o,
    (TemplateAddressing.ofFields o).unflipped _,
    (TemplateAddressing.ofOverlay_eq_ok_iff _ _).mpr ⟨?_, rfl⟩,
    (TemplateAddressing.ofOverlay_eq_ok_iff _ _).mpr ⟨rfl, rfl⟩, ?_⟩
  · rw [Overlay.invertsRowTwice, hasked, Bool.and_false]
  · intro t ht
    exact TemplateAddressing.url_unflipped hflip hpadding hroot ht rfl

/-- Two padded rows in a template, and a third in double braces, which is none. -/
theorem Addressing.flipped_rows_eq_inverted_rows_of_two_rows :
    let o : Overlay :=
      { url := "{y}/\x7b\x7by\x7d\x7d/{x}/{y}", flipRows := true
        padding := .ofList [("y", "000"), ("reverseY", "000")] }
    let o' : Overlay :=
      { o with url := "{reverseY}/\x7b\x7by\x7d\x7d/{x}/{reverseY}", flipRows := false }
    let p := Placement.resolve none none none none
    ∃ a a', TemplateAddressing.ofOverlay o = .ok a ∧ TemplateAddressing.ofOverlay o' = .ok a' ∧
      (Addressing.template a').url p ⟨4, 9, 3⟩ = (Addressing.template a).url p ⟨4, 9, 3⟩ ∧
      (Addressing.template a').url p ⟨4, 9, 3⟩ = .ok "012/\x7b\x7by\x7d\x7d/9/012" ∧
      (Addressing.template a').url p ⟨4, 9, 16⟩ = .error (.outsideGrid ⟨4, 9, 16⟩) := by
  intro o o' p
  obtain ⟨c, hc, a, a', ha, ha', hagree⟩ := Addressing.flipped_rows_eq_inverted_rows o p rfl
    (by decide +kernel) (by decide) rfl
  obtain rfl := hc.unique (Template.cutNamed_at _ _)
  have hurl : String.ofList ((Template.cutNamed (· == "y") o.url).allNamed "reverseY").text =
      o'.url := by
    decide +kernel
  rw [hurl] at ha'
  obtain ⟨-, rfl⟩ := (TemplateAddressing.ofOverlay_eq_ok_iff _ _).mp ha
  have hflipped : (Addressing.template (.ofFields o)).url p ⟨4, 9, 3⟩ =
      .ok "012/\x7b\x7by\x7d\x7d/9/012" := by decide +kernel
  have houtside : (Addressing.template (.ofFields o)).url p ⟨4, 9, 16⟩ =
      .error (.outsideGrid ⟨4, 9, 16⟩) := by decide +kernel
  have hinside := hagree ⟨4, 9, 3⟩ (by decide)
  have hbeyond := hagree ⟨4, 9, 16⟩ (by decide)
  rw [hflipped] at hinside
  rw [houtside] at hbeyond
  exact ⟨_, a', ha, ha', hinside.trans hflipped.symm, hinside, hbeyond⟩

end RasterOverlay
