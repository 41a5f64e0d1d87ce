import RasterOverlay.Proofs.AcceptedOverlay
import RasterOverlay.Proofs.TemplateCallbacks
import RasterOverlay.Proofs.TileIndices

/-!
The URL of a tile from a template. What each placeholder stands for, and for which tiles it stands
for nothing, is written down once in whole numbers; the URL is the cut of the template with these
texts, or the failure of the first placeholder that stands for nothing.
-/

namespace RasterOverlay

/-- A number in decimal, with zeros in front up to the length of the pad template of its key. -/
def Padding.written (p : Padding) (key : String) (n : Nat) : String :=
  String.ofList ((Nat.toDigits 10 n).leftpad ((p.template? key).elim 0 String.utf8ByteSize) '0')

theorem Padding.pad_eq_written (p : Padding) (key : String) (n : UInt64) :
    p.pad key n = p.written key n.toNat := by
  rw [pad, written, List.leftpad, Text.digitsOf]
  cases p.template? key with
  | none => rfl
  | some template => rfl

/-- The template of a key is all that a number is padded by. -/
theorem Padding.pad_congr {p q : Padding} {key key' : String}
    (h : p.template? key = q.template? key') : p.pad key = q.pad key' := by
  funext n
  rw [pad, pad, h]

namespace Overlay

/-- The names of the placeholders that stand for something else than themselves. -/
def fieldNames : List String :=
  ["x", "y", "z", "reverseX", "reverseY", "reverseZ", "s", "width", "height"]

/-- The names of those that stand for nothing on some tiles. -/
def fallibleNames : List String := ["z", "reverseX", "reverseY", "y", "s"]

/-- Why a placeholder stands for nothing on a tile, if it does. -/
def fieldFault? (o : Overlay) (t : Tile) (name : String) : Option TileError :=
  if name = "z" ∧ t.level.toNat + o.levelBias.toInt < 0 then
    some (.negativeLevel t.level o.levelBias)
  else if name = "reverseX" ∧ (o.placement.grid.columnsAt t.level).toNat ≤ t.column.toNat ∨
      name = "reverseY" ∧ (o.placement.grid.rowsAt t.level).toNat ≤ t.row.toNat ∨
      name = "y" ∧ o.flipRows = true ∧ 2 ^ t.level.toNat ≤ t.row.toNat then
    some (.outsideGrid t)
  else if name = "s" ∧ o.subdomains.names = [] then some (.noSubdomains o.url)
  else none

/-- What a placeholder stands for on a tile, if it stands for anything. -/
def fieldText (o : Overlay) (t : Tile) (name : String) : String :=
  match name with
  | "x" => o.padding.written "x" t.column.toNat
  | "y" => o.padding.written "y"
      (if o.flipRows then 2 ^ t.level.toNat - 1 - t.row.toNat else t.row.toNat)
  | "z" => o.padding.written "z" (t.level.toNat + o.levelBias.toInt).toNat
  | "reverseX" => o.padding.written "reverseX"
      ((o.placement.grid.columnsAt t.level).toNat - 1 - t.column.toNat)
  | "reverseY" => o.padding.written "reverseY"
      ((o.placement.grid.rowsAt t.level).toNat - 1 - t.row.toNat)
  | "reverseZ" => o.padding.written "reverseZ"
      (if t.level.toNat < o.maxLevel.toNat then o.maxLevel.toNat - t.level.toNat - 1
        else t.level.toNat)
  | "s" => o.subdomains.turn t
  | "width" => toString o.tileWidth.toNat
  | "height" => toString o.tileHeight.toNat
  | _ => name

variable (o : Overlay) (t : Tile)

theorem fieldFault?_level : o.fieldFault? t "z" =
    if t.level.toNat + o.levelBias.toInt < 0 then some (.negativeLevel t.level o.levelBias)
    else none := by
  simp [fieldFault?]

theorem fieldFault?_reversedColumn : o.fieldFault? t "reverseX" =
    if (o.placement.grid.columnsAt t.level).toNat ≤ t.column.toNat then some (.outsideGrid t)
    else none := by
  simp [fieldFault?]

theorem fieldFault?_reversedRow : o.fieldFault? t "reverseY" =
    if (o.placement.grid.rowsAt t.level).toNat ≤ t.row.toNat then some (.outsideGrid t)
    else none := by
  simp [fieldFault?]

theorem fieldFault?_row : o.fieldFault? t "y" =
    if o.flipRows = true ∧ 2 ^ t.level.toNat ≤ t.row.toNat then some (.outsideGrid t)
    else none := by
  simp [fieldFault?]

theorem fieldFault?_subdomain : o.fieldFault? t "s" =
    if o.subdomains.names = [] then some (.noSubdomains o.url) else none := by
  simp [fieldFault?]

theorem fieldFault?_of_notMem {name : String} (h : name ∉ fallibleNames) :
    o.fieldFault? t name = none := by
  simp only [fallibleNames, List.mem_cons, List.not_mem_nil, or_false, not_or] at h
  simp [fieldFault?, h]

theorem fieldText_of_notMem {name : String} (h : name ∉ fieldNames) :
    o.fieldText t name = name := by
  simp only [fieldNames, List.mem_cons, List.not_mem_nil, or_false, not_or] at h
  simp [fieldText, h]

end Overlay

theorem TemplateField.ofName_of_notMem {name : String} (h : name ∉ Overlay.fieldNames) :
    ofName name = .unknown := by
  simp only [Overlay.fieldNames, List.mem_cons, List.not_mem_nil, or_false, not_or] at h
  simp [ofName, h]

theorem TemplateField.mem_fieldNames {name : String} {n : TileNumber}
    (h : ofName name = .number n) : name ∈ Overlay.fieldNames := by
  by_contra hunknown
  rw [ofName_of_notMem hunknown] at h
  cases h

namespace TemplateAddressing

/-- The numbers of a tile depend on the levels of an addressing, and its row on how rows are counted. -/
theorem number_congr {a a' : TemplateAddressing} {g : Grid Float} {t : Tile} {n : TileNumber}
    (hbias : a.levelBias = a'.levelBias) (hdepth : a.maxLevel = a'.maxLevel)
    (hrows : n = .row → a.flipRows = a'.flipRows) : a.number g t n = a'.number g t n := by
  cases n with
  | column => rfl
  | row => simp only [number, hrows rfl]
  | level => simp only [number, hbias]
  | reversedColumn => rfl
  | reversedRow => rfl
  | reversedLevel => simp only [number, hdepth]

variable (o : Overlay) {t : Tile}

/-- A number that is there is padded, and a number that is not there is the fault. -/
theorem map_pad_elim {α : Type} {p : Prop} [Decidable p] {n : Option α} {wide : α → UInt64}
    {k : Nat} (e : TileError) (key : String) (hnone : p → n = none)
    (hsome : ¬ p → ∃ m, n = some m ∧ (wide m).toNat = k) :
    (n.elim (Except.error e) fun m => .ok (wide m)).map (o.padding.pad key) =
      (if p then some e else none).elim (.ok (o.padding.written key k)) .error := by
  by_cases hp : p
  · rw [hnone hp, if_pos hp]
    rfl
  · obtain ⟨m, hm, rfl⟩ := hsome hp
    rw [hm, if_neg hp]
    exact congrArg Except.ok (Padding.pad_eq_written _ _ _)

/-- A number that is always there is padded. -/
theorem value_of_number {name : String} {n : TileNumber} {m : UInt64}
    (hname : TemplateField.ofName name = .number n)
    (hn : (ofFields o).number o.placement.grid t n = .ok m) :
    (ofFields o).value o.placement.grid t name = .ok (o.padding.written name m.toNat) := by
  rw [value, hname, ← Padding.pad_eq_written]
  simp only [hn]
  rfl

theorem value_row (ht : t.level.toNat ≤ 30) :
    (ofFields o).value o.placement.grid t "y" =
      (o.fieldFault? t "y").elim (.ok (o.fieldText t "y")) .error := by
  have hname : TemplateField.ofName "y" = .number .row := by decide
  rw [o.fieldFault?_row]
  -- Flipped rows are those of a square pyramid, whatever the grid of the overlay is.
  by_cases hflip : o.flipRows = true
  · rw [value, hname]
    simp only [number, ofFields, Overlay.fieldText, hflip, if_true, true_and]
    exact map_pad_elim o _ "y" (flippedRow?_of_le (by omega))
      fun hrow => flippedRow?_of_lt (by omega) (by omega)
  · have hrow : (ofFields o).number o.placement.grid t .row = .ok t.row.toUInt64 := if_neg hflip
    rw [value_of_number o hname hrow, if_neg (fun h => hflip h.1), Overlay.fieldText,
      if_neg hflip]
    rfl

theorem value_level (ht : t.level.toNat ≤ 30) :
    (ofFields o).value o.placement.grid t "z" =
      (o.fieldFault? t "z").elim (.ok (o.fieldText t "z")) .error := by
  have hname : TemplateField.ofName "z" = .number .level := by decide
  rw [o.fieldFault?_level]
  by_cases hneg : t.level.toNat + o.levelBias.toInt < 0
  · rw [if_pos hneg, value, hname]
    simp only [number, ofFields, Level.biased_of_neg _ _ hneg]
    rfl
  · -- The level is small enough that no bias leads beyond 32 bits.
    have hbias := o.levelBias.toInt_lt
    obtain ⟨b, hb, hbn⟩ := Level.biased_of_nonneg t.level o.levelBias (by omega) (by omega)
    have hlevel : (ofFields o).number o.placement.grid t .level = .ok b.toUInt64 := by
      simp only [number, ofFields, hb]
      rfl
    rw [value_of_number o hname hlevel, if_neg hneg, Overlay.fieldText, UInt32.toNat_toUInt64, hbn]
    rfl

/-- Both indices that are counted from the other edge fail on tiles beyond that edge. -/
theorem value_of_inverted {name : String} {n : TileNumber} {count index : UInt32}
    (hname : TemplateField.ofName name = .number n)
    (hn : (ofFields o).number o.placement.grid t n =
      (invertRow count index).elim (.error (.outsideGrid t)) (.ok ·.toUInt64)) :
    (ofFields o).value o.placement.grid t name =
      (if count.toNat ≤ index.toNat then some (.outsideGrid t) else none).elim
        (.ok (o.padding.written name (count.toNat - 1 - index.toNat))) .error := by
  rw [value, hname]
  simp only [hn]
  refine map_pad_elim o _ name invertRow_of_le ?_
  intro hlt
  obtain ⟨r, hr, hrn⟩ := invertRow_of_lt (Nat.lt_of_not_le hlt)
  refine ⟨r, hr, ?_⟩
  rw [UInt32.toNat_toUInt64, hrn]

theorem value_reversedColumn :
    (ofFields o).value o.placement.grid t "reverseX" =
      (o.fieldFault? t "reverseX").elim (.ok (o.fieldText t "reverseX")) .error := by
  rw [o.fieldFault?_reversedColumn]
  exact value_of_inverted (n := .reversedColumn) o (by decide) rfl

theorem value_reversedRow :
    (ofFields o).value o.placement.grid t "reverseY" =
      (o.fieldFault? t "reverseY").elim (.ok (o.fieldText t "reverseY")) .error := by
  rw [o.fieldFault?_reversedRow]
  exact value_of_inverted (n := .reversedRow) o (by decide) rfl

theorem value_subdomain :
    (ofFields o).value o.placement.grid t "s" =
      (o.fieldFault? t "s").elim (.ok (o.fieldText t "s")) .error := by
  have hname : TemplateField.ofName "s" = .subdomain := by decide
  rw [o.fieldFault?_subdomain, value, hname]
  simp only [ofFields, Subdomains.select?_eq]
  by_cases hnone : o.subdomains.names = []
  · rw [if_pos hnone, if_pos hnone]
    rfl
  · rw [if_neg hnone, if_neg hnone]
    rfl

/-- Each placeholder is replaced as the table of the placeholders says. -/
theorem value_eq (ht : t.level.toNat ≤ 30) (name : String) :
    (ofFields o).value o.placement.grid t name =
      (o.fieldFault? t name).elim (.ok (o.fieldText t name)) .error := by
  by_cases hknown : name ∈ Overlay.fieldNames
  · simp only [Overlay.fieldNames, List.mem_cons, List.not_mem_nil, or_false] at hknown
    rcases hknown with rfl | rfl | rfl | rfl | rfl | rfl | rfl | rfl | rfl
    · rw [o.fieldFault?_of_notMem t (by decide), value_of_number (n := .column) o (by decide) rfl]
      rfl
    · exact value_row o ht
    · exact value_level o ht
    · exact value_reversedColumn o
    · exact value_reversedRow o
    · rw [o.fieldFault?_of_notMem t (by decide),
        value_of_number (n := .reversedLevel) o (by decide) rfl, UInt32.toNat_toUInt64,
        toNat_reversedLevel]
      rfl
    · exact value_subdomain o
    · rw [o.fieldFault?_of_notMem t (by decide), value,
        show TemplateField.ofName "width" = .tileWidth by decide]
      rfl
    · rw [o.fieldFault?_of_notMem t (by decide), value,
        show TemplateField.ofName "height" = .tileHeight by decide]
      rfl
  · have hfault : name ∉ Overlay.fallibleNames := fun h =>
      hknown ((by decide : ∀ k ∈ Overlay.fallibleNames, k ∈ Overlay.fieldNames) name h)
    rw [o.fieldFault?_of_notMem t hfault, o.fieldText_of_notMem t hknown, value,
      TemplateField.ofName_of_notMem hknown]
    rfl

end TemplateAddressing

namespace TileLoader

theorem url_eq_of_template {o : Overlay} {l : TileLoader} {t : Tile} (hl : ofOverlay o = .ok l)
    (hs : o.source = .template) (ht : t.level.toNat ≤ 30) :
    l.url t = ((Template.placeholders o.url).findSome? (o.fieldFault? t)).elim
      (.ok ((Template.cut o.url).fill ((Template.placeholders o.url).map (o.fieldText t))))
      .error := by
  obtain ⟨-, rfl⟩ := (ofOverlay_eq_ok_iff_of_template hs l).mp hl
  rw [url_of_level_le _ ht]
  exact Template.substitute_of_faults (TemplateAddressing.value_eq o ht) o.url

/-- A tile down to level 30 has a URL if and only if each placeholder of the template stands for
something. Otherwise the failure is that of the first one that does not; the URL is the cut of the
template with what the placeholders stand for. -/
theorem template_url_outcome (o : Overlay) (l : TileLoader) (t : Tile) (hl : ofOverlay o = .ok l)
    (hs : o.source = .template) (ht : t.level.toNat ≤ 30) :
    ((∃ u, l.url t = .ok u) ↔
      ∀ name ∈ Template.placeholders o.url, o.fieldFault? t name = none) ∧
    (∀ e, l.url t = .error e ↔
      ∃ before name after, Template.placeholders o.url = before ++ name :: after ∧
        o.fieldFault? t name = some e ∧ ∀ earlier ∈ before, o.fieldFault? t earlier = none) ∧
    ∀ u, l.url t = .ok u →
      ∃ c : Template.Cut, c.At o.url ∧ u = c.fill (c.names.map (o.fieldText t)) := by
  simp only [url_eq_of_template hl hs ht, elim_eq_error_iff, elim_eq_ok_iff]
  refine ⟨?_, ?_, ?_⟩
  · simp only [exists_and_left, exists_eq, and_true]
    exact List.findSome?_eq_none_iff
  · intro e
    exact List.findSome?_eq_some_iff
  · rintro u ⟨-, rfl⟩
    refine ⟨Template.cut o.url, Template.cut_at o.url, ?_⟩
    rw [Template.names_cut]

/-- A row beyond the pyramid is reported, though the level that follows it would fail as well. A row
of the pyramid is counted from the other side and padded to the three places of its template. -/
theorem template_url_outcome_of_flipped_row :
    (∃ l, ofOverlay { url := "{y}/{z}", flipRows := true, levelBias := -2 } = .ok l ∧
      l.url ⟨1, 0, 2⟩ = .error (.outsideGrid ⟨1, 0, 2⟩)) ∧
    ∃ l, ofOverlay { url := "{z}/{y}.png", flipRows := true, padding := ⟨[("y", "000")]⟩ } = .ok l ∧
      l.url ⟨4, 1, 2⟩ = .ok "4/013.png" := by
  constructor
  · have haccepted := (ofOverlay_eq_ok_iff_of_template
      (o := { url := "{y}/{z}", flipRows := true, levelBias := -2 }) rfl _).mpr
      ⟨by decide +kernel, rfl⟩
    refine ⟨_, haccepted, ?_⟩
    rw [(template_url_outcome _ _ ⟨1, 0, 2⟩ haccepted rfl (by decide)).2.1]
    refine ⟨[], "y", ["z"], by decide +kernel, ?_, by simp⟩
    rw [Overlay.fieldFault?_row]
    decide
  · have haccepted := (ofOverlay_eq_ok_iff_of_template
      (o := { url := "{z}/{y}.png", flipRows := true, padding := ⟨[("y", "000")]⟩ }) rfl _).mpr
      ⟨by decide +kernel, rfl⟩
    refine ⟨_, haccepted, ?_⟩
    obtain ⟨hsuccess, -, htext⟩ := template_url_outcome _ _ ⟨4, 1, 2⟩ haccepted rfl (by decide)
    obtain ⟨u, hu⟩ := hsuccess.mpr (by decide +kernel)
    obtain ⟨c, hc, hfilled⟩ := htext u hu
    rw [hu, hfilled, hc.unique (Template.cut_at _)]
    decide +kernel

end TileLoader

end RasterOverlay
