import Mathlib
import RasterOverlay.Proofs.DocumentValues
import RasterOverlay.Proofs.PaddingEntries

/-!
What overlay a document describes, and which documents describe one. Each field is the value of its
key or its default; no value that is given is passed over, and what is wrong first is reported.
-/

namespace RasterOverlay

open Ini (Document)

namespace Overlay

/-! ## What a document describes -/

/-- An entry without the blanks around its key and around its value. -/
def trimmed (entry : String × String) : String × String := (Text.trim entry.1, Text.trim entry.2)

/-- The fields that the heading of the overlay itself settles. The ellipsoid goes into the
projection, if one is given, and stays a field of its own otherwise. -/
structure DescribedByHeading (d : Document) (o : Overlay) : Prop where
  name : d.Settles "overlay" "name" .text "overlay" o.name
  source : d.Settles "overlay" "type" .source .template o.source
  url : d.Settles "overlay" "url" .text "" o.url
  credit : d.HasValue "overlay" "credit" .text o.credit
  projection : ∃ kind ellipsoid,
    d.HasValue "overlay" "projection" .projection kind ∧
    d.HasValue "overlay" "ellipsoid" .ellipsoid ellipsoid ∧
    o.projection = kind.map (fun k => ⟨k, ellipsoid.getD .wgs84⟩) ∧
    o.ellipsoid = if kind.isSome then none else ellipsoid
  coverage : d.HasValue "overlay" "coverage_rectangle" .rectangle o.coverage
  tileWidth : d.Settles "overlay" "tile_width" (.count .pixelCount) 256 o.tileWidth
  tileHeight : d.Settles "overlay" "tile_height" (.count .pixelCount) 256 o.tileHeight
  minLevel : d.Settles "overlay" "minimum_level" (.count .levelNumber) 0 o.minLevel
  maxLevel : d.Settles "overlay" "maximum_level" (.count .levelNumber) 25 o.maxLevel
  levelBias : d.Settles "overlay" "level_bias" .signed 0 o.levelBias
  subdomains : d.Settles "overlay" "subdomains" .subdomains ⟨[]⟩ o.subdomains
  matrixLabels : d.Settles "overlay" "tile_matrix_labels" .items [] o.matrixLabels
  flipRows : d.Settles "overlay" "flip_y" .truth false o.flipRows

/-- There is a grid exactly under a heading for it. Its constructor takes the counts as they are
given; where one is absent or blank it is one. -/
def DescribedGrid (d : Document) : Option (Grid Float) → Prop
  | none => ¬ d.HasHeading "tiling_scheme"
  | some grid => ∃ extent columns rows,
    d.HasValue "tiling_scheme" "rectangle" .rectangle (some extent) ∧
    d.Settles "tiling_scheme" "root_tiles_x" (.count .tileCount) 1 columns ∧
    d.Settles "tiling_scheme" "root_tiles_y" (.count .tileCount) 1 rows ∧
    grid = .ofRoots extent columns rows

structure DescribedService (d : Document) (w : Wmts.Options) : Prop where
  layer : d.HasValue "wmts" "layer" .text w.layer
  style : d.HasValue "wmts" "style" .text w.style
  matrixSet : d.HasValue "wmts" "tile_matrix_set" .text w.matrixSet
  format : d.HasValue "wmts" "format" .text w.format
  version : d.HasValue "wmts" "version" .text w.version
  tokenName : d.HasValue "wmts" "token_name" .text w.tokenName
  tokenValue : d.HasValue "wmts" "token_value" .text w.tokenValue

/-- The overlay that is put together from a document. -/
structure Describes (d : Document) (o : Overlay) : Prop extends DescribedByHeading d o where
  grid : DescribedGrid d o.grid
  wmts : DescribedService d o.wmts
  padding : o.padding = .ofList ((d.entriesUnder "zero_padding").map trimmed)
  headers : o.headers = (d.entriesUnder "headers").map trimmed

/-! ## What a document may be refused for -/

/-- The keys of the overlay itself whose values may be refused, in the order in which they are
read. All other keys take any text. -/
def overlayKeys : List Key := [
  ⟨"overlay", "type", .source⟩, ⟨"overlay", "projection", .projection⟩,
  ⟨"overlay", "ellipsoid", .ellipsoid⟩, ⟨"overlay", "coverage_rectangle", .rectangle⟩,
  ⟨"overlay", "tile_width", .count .pixelCount⟩, ⟨"overlay", "tile_height", .count .pixelCount⟩,
  ⟨"overlay", "minimum_level", .count .levelNumber⟩,
  ⟨"overlay", "maximum_level", .count .levelNumber⟩, ⟨"overlay", "level_bias", .signed⟩,
  ⟨"overlay", "flip_y", .truth⟩]

def extentKey : Key := ⟨"tiling_scheme", "rectangle", .rectangle⟩

def rootKeys : List Key := [
  ⟨"tiling_scheme", "root_tiles_x", .count .tileCount⟩,
  ⟨"tiling_scheme", "root_tiles_y", .count .tileCount⟩]

/-- The heading of a grid is there, and no rectangle is. -/
def LacksExtent (d : Document) : Prop :=
  d.HasHeading "tiling_scheme" ∧ ∀ text, ¬ d.Gives "tiling_scheme" "rectangle" text

/-- The complaints about the heading of a grid. The two about its rectangle exclude each other. -/
def gridComplaints (d : Document) : List (FileError → Prop) :=
  extentKey.Complains d ::
  (fun e => LacksExtent d ∧ e = .invalidValue "tiling_scheme" "rectangle" "" .gridRectangle) ::
  rootKeys.map (·.Complains d)

/-- The complaint about an entry whose template is blank. -/
def BlankTemplate (heading : String) (entry : String × String) (e : FileError) : Prop :=
  Text.trim entry.2 = "" ∧ e = .invalidValue heading entry.1 "" .padTemplate

/-- All complaints about a document, in the order in which they are made. -/
def complaints (d : Document) : List (FileError → Prop) :=
  overlayKeys.map (·.Complains d) ++
  gridComplaints d ++
  (d.entriesUnder "zero_padding").map (BlankTemplate "zero_padding")

/-- Every value that is given can be read, a grid has its rectangle, and no template is blank. -/
structure WellFormed (d : Document) : Prop where
  overlay : ∀ k ∈ overlayKeys, k.Readable d
  extent : extentKey.Readable d
  extent_given : d.HasHeading "tiling_scheme" → ∃ text, d.Gives "tiling_scheme" "rectangle" text
  roots : ∀ k ∈ rootKeys, k.Readable d
  templates : ∀ entry ∈ d.entriesUnder "zero_padding", Text.trim entry.2 ≠ ""

/-! ## Reading the heading of the overlay -/

variable {d : Document}

theorem hasValue_text_iff {heading key : String} {value : Option String} :
    d.HasValue heading key .text value ↔ value = (Heading.ofDocument d heading).text? key := by
  cases value with
  | none => rw [eq_comm, Heading.text?_eq_none_iff, Document.HasValue]
  | some text =>
    rw [eq_comm, Heading.text?_eq_some_iff]
    constructor
    · rintro ⟨text', h, rfl⟩
      exact h
    · intro h
      exact ⟨text, h, rfl⟩

theorem settles_total_iff {α : Type} {heading key : String} {read : String → α}
    {Means : String → α → Prop} {hmeans : ∀ text v, read text = v ↔ Means text v}
    {default value : α} :
    d.Settles heading key (.total read Means hmeans) default value ↔
      value = ((Heading.ofDocument d heading).text? key).elim default read := by
  cases htext : (Heading.ofDocument d heading).text? key with
  | none =>
    have hnone := Heading.text?_eq_none_iff.mp htext
    simp [Document.Settles, hnone]
  | some text =>
    have hgives := Heading.text?_eq_some_iff.mp htext
    simp [Document.Settles, Heading.gives_iff_eq hgives, ValueKind.total, ← hmeans, eq_comm]

theorem settles_text_iff {heading key default value : String} :
    d.Settles heading key .text default value ↔
      value = ((Heading.ofDocument d heading).text? key).getD default := by
  rw [ValueKind.text, settles_total_iff]
  cases (Heading.ofDocument d heading).text? key <;> rfl

theorem ofHeading_eq_ok_iff {o : Overlay} :
    ofHeading (.ofDocument d "overlay") = .ok o ↔
      DescribedByHeading d o ∧
        o = { o with headers := [], grid := none, padding := .empty, wmts := {} } := by
  -- with the readers named by their kinds, each key that is read is one value that the document has
  unfold ofHeading Heading.count?
  simp only [← ValueKind.read_source, ← ValueKind.read_projection, ← ValueKind.read_ellipsoid,
    ← ValueKind.read_rectangle, ← ValueKind.read_count, ← ValueKind.read_signed,
    ← ValueKind.read_truth, bind_eq_ok_iff, pure_eq_ok_iff, Heading.value?_eq_ok_iff]
  constructor
  · rintro ⟨source, hsource, projection, hprojection, ellipsoid, hellipsoid, coverage, hcoverage,
      tileWidth, htileWidth, tileHeight, htileHeight, minLevel, hminLevel, maxLevel, hmaxLevel,
      levelBias, hlevelBias, flipRows, hflipRows, rfl⟩
    refine ⟨?_, rfl⟩
    exact {
      name := settles_text_iff.mpr rfl
      source := Document.settles_iff.mpr ⟨source, hsource, rfl⟩
      url := settles_text_iff.mpr rfl
      credit := hasValue_text_iff.mpr rfl
      projection := ⟨projection, ellipsoid, hprojection, hellipsoid, rfl, rfl⟩
      coverage := hcoverage
      tileWidth := Document.settles_iff.mpr ⟨tileWidth, htileWidth, rfl⟩
      tileHeight := Document.settles_iff.mpr ⟨tileHeight, htileHeight, rfl⟩
      minLevel := Document.settles_iff.mpr ⟨minLevel, hminLevel, rfl⟩
      maxLevel := Document.settles_iff.mpr ⟨maxLevel, hmaxLevel, rfl⟩
      levelBias := Document.settles_iff.mpr ⟨levelBias, hlevelBias, rfl⟩
      subdomains := settles_total_iff.mpr rfl
      matrixLabels := settles_total_iff.mpr rfl
      flipRows := Document.settles_iff.mpr ⟨flipRows, hflipRows, rfl⟩ }
  · rintro ⟨h, hrest⟩
    obtain ⟨source, hsource, hsource'⟩ := Document.settles_iff.mp h.source
    obtain ⟨projection, ellipsoid, hprojection, hellipsoid, hprojection', hellipsoid'⟩ :=
      h.projection
    obtain ⟨tileWidth, htileWidth, htileWidth'⟩ := Document.settles_iff.mp h.tileWidth
    obtain ⟨tileHeight, htileHeight, htileHeight'⟩ := Document.settles_iff.mp h.tileHeight
    obtain ⟨minLevel, hminLevel, hminLevel'⟩ := Document.settles_iff.mp h.minLevel
    obtain ⟨maxLevel, hmaxLevel, hmaxLevel'⟩ := Document.settles_iff.mp h.maxLevel
    obtain ⟨levelBias, hlevelBias, hlevelBias'⟩ := Document.settles_iff.mp h.levelBias
    obtain ⟨flipRows, hflipRows, hflipRows'⟩ := Document.settles_iff.mp h.flipRows
    refine ⟨source, hsource, projection, hprojection, ellipsoid, hellipsoid, o.coverage, h.coverage,
      tileWidth, htileWidth, tileHeight, htileHeight, minLevel, hminLevel, maxLevel, hmaxLevel,
      levelBias, hlevelBias, flipRows, hflipRows, ?_⟩
    rw [hrest, hsource', hprojection', hellipsoid', htileWidth', htileHeight', hminLevel',
      hmaxLevel', hlevelBias', hflipRows', settles_text_iff.mp h.name, settles_text_iff.mp h.url,
      hasValue_text_iff.mp h.credit, settles_total_iff.mp h.subdomains,
      settles_total_iff.mp h.matrixLabels]
    rfl

theorem failsBy_ofHeading :
    FailsBy (ofHeading (.ofDocument d "overlay")) (overlayKeys.map (·.Complains d)) := by
  unfold ofHeading Heading.count?
  simp only [← ValueKind.read_source, ← ValueKind.read_projection, ← ValueKind.read_ellipsoid,
    ← ValueKind.read_rectangle, ← ValueKind.read_count, ← ValueKind.read_signed,
    ← ValueKind.read_truth]
  refine .cons Key.failsBy_value? fun source _ => ?_
  refine .cons Key.failsBy_value? fun projection _ => ?_
  refine .cons Key.failsBy_value? fun ellipsoid _ => ?_
  refine .cons Key.failsBy_value? fun coverage _ => ?_
  refine .cons Key.failsBy_value? fun tileWidth _ => ?_
  refine .cons Key.failsBy_value? fun tileHeight _ => ?_
  refine .cons Key.failsBy_value? fun minLevel _ => ?_
  refine .cons Key.failsBy_value? fun maxLevel _ => ?_
  refine .cons Key.failsBy_value? fun levelBias _ => ?_
  refine .cons Key.failsBy_value? fun flipRows _ => ?_
  exact .of_silent _ silent_nil

/-! ## Reading the grid -/

def readGrid (d : Document) : Except FileError (Option (Grid Float)) :=
  if (d.section? "tiling_scheme").isSome then
    some <$> gridOfHeading (.ofDocument d "tiling_scheme")
  else pure none

theorem not_gives_of_no_heading {heading : String} (h : ¬ d.HasHeading heading)
    (key text : String) : ¬ d.Gives heading key text := by
  rintro ⟨s, raw, ⟨before, after, hsections, hname, -⟩, -⟩
  exact h ⟨s, by simp [hsections], hname⟩

theorem gridOfHeading_eq_ok_iff {grid : Grid Float} :
    gridOfHeading (.ofDocument d "tiling_scheme") = .ok grid ↔ DescribedGrid d (some grid) := by
  unfold gridOfHeading Heading.count?
  simp only [← ValueKind.read_rectangle, ← ValueKind.read_count, bind_eq_ok_iff,
    Heading.value?_eq_ok_iff, DescribedGrid, Document.settles_iff]
  constructor
  · rintro ⟨_ | extent, hextent, h⟩
    · cases h
    · simp only [bind_eq_ok_iff, pure_eq_ok_iff, Heading.value?_eq_ok_iff] at h
      obtain ⟨columns, hcolumns, rows, hrows, rfl⟩ := h
      exact ⟨extent, _, _, hextent, ⟨columns, hcolumns, rfl⟩, ⟨rows, hrows, rfl⟩, rfl⟩
  · rintro ⟨extent, _, _, hextent, ⟨columns, hcolumns, rfl⟩, ⟨rows, hrows, rfl⟩, rfl⟩
    refine ⟨some extent, hextent, ?_⟩
    simp only [bind_eq_ok_iff, pure_eq_ok_iff, Heading.value?_eq_ok_iff]
    exact ⟨columns, hcolumns, rows, hrows, rfl⟩

theorem readGrid_eq_ok_iff {grid : Option (Grid Float)} :
    readGrid d = .ok grid ↔ DescribedGrid d grid := by
  rw [readGrid]
  by_cases hheading : d.HasHeading "tiling_scheme"
  · rw [if_pos (Document.section?_isSome_iff.mpr hheading), map_eq_pure_bind, bind_eq_ok_iff]
    simp only [pure_eq_ok_iff, gridOfHeading_eq_ok_iff]
    cases grid with
    | none => simp [DescribedGrid, hheading]
    | some grid => simp
  · rw [if_neg (mt Document.section?_isSome_iff.mp hheading), pure_eq_ok_iff]
    cases grid with
    | none => simp [DescribedGrid, hheading]
    | some grid =>
      simp only [reduceCtorEq, false_iff]
      rintro ⟨extent, columns, rows, ⟨text, htext, -⟩, -⟩
      exact not_gives_of_no_heading hheading _ _ htext

theorem failsBy_gridOfHeading (hheading : d.HasHeading "tiling_scheme") :
    FailsBy (gridOfHeading (.ofDocument d "tiling_scheme")) (gridComplaints d) := by
  unfold gridOfHeading Heading.count?
  simp only [← ValueKind.read_rectangle, ← ValueKind.read_count, gridComplaints]
  refine .cons Key.failsBy_value? fun extent hextent => ?_
  have hvalue := Heading.value?_eq_ok_iff.mp hextent
  cases extent with
  | none =>
    have hlacks : LacksExtent d := ⟨hheading, hvalue⟩
    exact .of_error fun e => and_iff_right hlacks
  | some extent =>
    -- the rectangle is there, so the next complaint to come is about the counts
    obtain ⟨text, htext, -⟩ := hvalue
    refine .skip (fun e he => he.1.2 text htext) ?_
    refine .cons Key.failsBy_value? fun columns _ => ?_
    refine .cons Key.failsBy_value? fun rows _ => ?_
    exact .of_silent _ silent_nil

theorem not_complains_of_no_heading {k : Key} (h : ¬ d.HasHeading k.heading) (e : FileError) :
    ¬ k.Complains d e := by
  rintro ⟨text, expected, htext, -⟩
  exact not_gives_of_no_heading h _ _ htext

theorem failsBy_readGrid : FailsBy (readGrid d) (gridComplaints d) := by
  rw [readGrid]
  by_cases hheading : d.HasHeading "tiling_scheme"
  · rw [if_pos (Document.section?_isSome_iff.mpr hheading)]
    exact (failsBy_gridOfHeading hheading).map
  · have hroots : Silent (rootKeys.map (·.Complains d)) := by
      simp only [rootKeys, List.map_cons, List.map_nil, silent_cons]
      exact ⟨not_complains_of_no_heading hheading, not_complains_of_no_heading hheading, silent_nil⟩
    have hsilent : Silent (gridComplaints d) :=
      silent_cons.mpr ⟨not_complains_of_no_heading hheading,
        silent_cons.mpr ⟨fun _ he => hheading he.1.1, hroots⟩⟩
    rw [if_neg (mt Document.section?_isSome_iff.mp hheading)]
    exact .of_silent none hsilent

/-! ## Reading the templates -/

/-- What one entry does to the templates that were read before it. -/
def putTemplate (heading : String) (p : Padding) (entry : String × String) :
    Except FileError Padding :=
  match Text.filled? entry.2 with
  | some template => .ok (p.insert (Text.trim entry.1) template)
  | none => .error (.invalidValue heading entry.1 "" .padTemplate)

theorem paddingOfHeading_eq (h : Heading) :
    paddingOfHeading h = h.body.entries.foldlM (putTemplate h.name) .empty := by
  unfold paddingOfHeading
  refine congrArg (fun step => h.body.entries.foldlM step Padding.empty) ?_
  funext p ⟨key, template⟩
  cases hfilled : Text.filled? template with
  | none => simp only [putTemplate, hfilled]
  | some text => simp only [putTemplate, hfilled]

theorem putTemplate_of_blank {heading : String} {entry : String × String}
    (h : Text.trim entry.2 = "") (p : Padding) :
    putTemplate heading p entry = .error (.invalidValue heading entry.1 "" .padTemplate) := by
  have hnone : Text.filled? entry.2 = none := by
    rw [Option.eq_none_iff_forall_ne_some]
    intro text htext
    obtain ⟨rfl, hne⟩ := Text.filled?_eq_some_iff.mp htext
    exact hne h
  rw [putTemplate, hnone]

theorem putTemplate_of_filled {heading : String} {entry : String × String}
    (h : Text.trim entry.2 ≠ "") (p : Padding) :
    putTemplate heading p entry = .ok (p.insert (trimmed entry).1 (trimmed entry).2) := by
  rw [putTemplate, Text.filled?_eq_some_iff.mpr ⟨rfl, h⟩]
  rfl

theorem foldlM_putTemplate_eq_ok_iff {heading : String} {entries : List (String × String)}
    {p q : Padding} :
    entries.foldlM (putTemplate heading) p = .ok q ↔
      (∀ entry ∈ entries, Text.trim entry.2 ≠ "") ∧
        q = (entries.map trimmed).foldl (fun p entry => p.insert entry.1 entry.2) p := by
  -- by induction on the entries, for whatever templates have been put in before
  induction entries generalizing p with
  | nil => simp [pure_eq_ok_iff]
  | cons entry rest ih =>
    rw [List.foldlM_cons, List.forall_mem_cons, List.map_cons, List.foldl_cons]
    by_cases hblank : Text.trim entry.2 = ""
    · rw [putTemplate_of_blank hblank]
      simp [hblank, bind, Except.bind]
    · rw [putTemplate_of_filled hblank, and_assoc, and_iff_right hblank, ← ih]
      rfl

theorem failsBy_foldlM_putTemplate (heading : String) (entries : List (String × String))
    (p : Padding) :
    FailsBy (entries.foldlM (putTemplate heading) p) (entries.map (BlankTemplate heading)) := by
  induction entries generalizing p with
  | nil => exact .of_silent p silent_nil
  | cons entry rest ih =>
    rw [List.foldlM_cons, List.map_cons]
    by_cases hblank : Text.trim entry.2 = ""
    · rw [putTemplate_of_blank hblank]
      exact .of_error fun e => and_iff_right hblank
    · rw [putTemplate_of_filled hblank]
      exact .skip (fun e he => hblank he.1) (ih _)

/-! ## The whole document -/

/-- The overlay before it is checked as a whole. -/
def assembled (d : Document) : Except FileError Overlay := do
  let overlay ← ofHeading (.ofDocument d "overlay")
  let grid ← readGrid d
  let padding ← paddingOfHeading (.ofDocument d "zero_padding")
  return { overlay with
    grid := grid
    wmts := wmtsOfHeading (.ofDocument d "wmts")
    padding := padding
    headers := headersOfHeading (.ofDocument d "headers") }

/-- The check of an overlay as a whole. -/
def checked (o : Overlay) : Except FileError Overlay :=
  match o.validate with
  | .ok () => .ok o
  | .error cause => .error (.invalidOverlay cause)

theorem checked_eq_ok_iff {o o' : Overlay} :
    checked o = .ok o' ↔ o' = o ∧ o.validate = .ok () := by
  rw [checked]
  cases o.validate <;> simp [eq_comm]

theorem checked_eq_error_iff {o : Overlay} {e : FileError} :
    checked o = .error e ↔ ∃ cause, o.validate = .error cause ∧ e = .invalidOverlay cause := by
  rw [checked]
  cases o.validate <;> simp [eq_comm]

theorem ofDocument_eq (d : Document) : ofDocument d = assembled d >>= checked := by
  simp only [ofDocument, assembled, readGrid, bind_assoc, pure_bind]
  refine bind_congr fun overlay => ?_
  -- the grid is read in one of two ways, and what follows it is the same in both
  cases d.section? "tiling_scheme" with
  | none =>
    simp only [Option.isSome_none, Bool.false_eq_true, if_false, pure_bind]
    refine bind_congr fun padding => ?_
    rw [checked]
    generalize Overlay.validate _ = valid
    cases valid with
    | ok => rfl
    | error cause => rfl
  | some s =>
    simp only [Option.isSome_some, if_true]
    refine bind_congr fun grid => bind_congr fun padding => ?_
    rw [checked]
    generalize Overlay.validate _ = valid
    cases valid with
    | ok => rfl
    | error cause => rfl

theorem describedService_iff {w : Wmts.Options} :
    DescribedService d w ↔ w = wmtsOfHeading (.ofDocument d "wmts") := by
  constructor
  · intro h
    obtain ⟨layer, style, matrixSet, format, version, tokenName, tokenValue⟩ := h
    simp only [hasValue_text_iff] at *
    cases w
    subst_vars
    rfl
  · rintro rfl
    constructor
    all_goals exact hasValue_text_iff.mpr rfl

theorem assembled_eq_ok_iff {o : Overlay} :
    assembled d = .ok o ↔
      Describes d o ∧ ∀ entry ∈ d.entriesUnder "zero_padding", Text.trim entry.2 ≠ "" := by
  simp only [assembled, bind_eq_ok_iff, pure_eq_ok_iff, ofHeading_eq_ok_iff, readGrid_eq_ok_iff,
    paddingOfHeading_eq, Heading.entries_ofDocument, foldlM_putTemplate_eq_ok_iff]
  constructor
  · rintro ⟨overlay, ⟨hoverlay, -⟩, grid, hgrid, padding, ⟨htemplates, hpadding⟩, rfl⟩
    refine ⟨?_, htemplates⟩
    exact { hoverlay with
      grid := hgrid
      wmts := describedService_iff.mpr rfl
      padding := hpadding
      headers := by rw [headersOfHeading, Heading.entries_ofDocument]; rfl }
  · rintro ⟨h, htemplates⟩
    refine ⟨{ o with headers := [], grid := none, padding := .empty, wmts := {} }, ⟨?_, rfl⟩,
      o.grid, h.grid, o.padding, ⟨htemplates, h.padding⟩, ?_⟩
    · exact { h.toDescribedByHeading with }
    · have hheaders : headersOfHeading (.ofDocument d "headers") = o.headers := by
        rw [h.headers, headersOfHeading, Heading.entries_ofDocument]
        rfl
      rw [← describedService_iff.mp h.wmts, hheaders]

theorem failsBy_assembled : FailsBy (assembled d) (complaints d) := by
  have hpadding : FailsBy (paddingOfHeading (.ofDocument d "zero_padding"))
      ((d.entriesUnder "zero_padding").map (BlankTemplate "zero_padding")) := by
    rw [paddingOfHeading_eq, Heading.entries_ofDocument]
    exact failsBy_foldlM_putTemplate _ _ _
  rw [assembled, complaints, List.append_assoc]
  refine failsBy_ofHeading.bind fun overlay _ => ?_
  refine failsBy_readGrid.bind fun grid _ => ?_
  exact hpadding.map

theorem silent_keys_iff {keys : List Key} :
    Silent (keys.map (·.Complains d)) ↔ ∀ k ∈ keys, k.Readable d := by
  simp only [Silent, List.forall_mem_map, Key.not_complains_iff_readable]

/-- A complaint that can raise one error only is silent if its reason does not hold. -/
theorem forall_not_and_eq_iff {reason : Prop} {e : FileError} :
    (∀ e', ¬ (reason ∧ e' = e)) ↔ ¬ reason := by
  constructor
  · exact fun h hreason => h e ⟨hreason, rfl⟩
  · exact fun h e' he => h he.1

theorem silent_complaints_iff : Silent (complaints d) ↔ WellFormed d := by
  simp only [complaints, gridComplaints, silent_append, silent_cons, silent_keys_iff,
    Key.not_complains_iff_readable]
  have hlacks : ¬ LacksExtent d ↔
      (d.HasHeading "tiling_scheme" → ∃ text, d.Gives "tiling_scheme" "rectangle" text) := by
    simp only [LacksExtent, not_and, not_forall, not_not]
  have htemplates : Silent ((d.entriesUnder "zero_padding").map (BlankTemplate "zero_padding")) ↔
      ∀ entry ∈ d.entriesUnder "zero_padding", Text.trim entry.2 ≠ "" := by
    simp only [Silent, List.forall_mem_map, BlankTemplate, forall_not_and_eq_iff, ne_eq]
  rw [forall_not_and_eq_iff, hlacks, htemplates]
  constructor
  · rintro ⟨⟨hoverlay, hextent, hgiven, hroots⟩, htemplates⟩
    exact ⟨hoverlay, hextent, hgiven, hroots, htemplates⟩
  · rintro ⟨hoverlay, hextent, hgiven, hroots, htemplates⟩
    exact ⟨⟨hoverlay, hextent, hgiven, hroots⟩, htemplates⟩

/-- A document in which no value is wrong is put together to the one overlay that it describes. -/
theorem assembled_eq_ok_iff_wellFormed {o : Overlay} :
    assembled d = .ok o ↔ WellFormed d ∧ Describes d o := by
  constructor
  · intro h
    have hwell := silent_complaints_iff.mp (failsBy_assembled.silent_iff.mpr ⟨o, h⟩)
    exact ⟨hwell, (assembled_eq_ok_iff.mp h).1⟩
  · rintro ⟨hwell, h⟩
    exact assembled_eq_ok_iff.mpr ⟨h, hwell.templates⟩

theorem WellFormed.existsUnique_describes (h : WellFormed d) : ∃! o, Describes d o := by
  obtain ⟨o, ho⟩ := failsBy_assembled.silent_iff.mp (silent_complaints_iff.mpr h)
  refine ⟨o, (assembled_eq_ok_iff.mp ho).1, fun o' ho' => ?_⟩
  have ho'' := assembled_eq_ok_iff_wellFormed.mpr ⟨h, ho'⟩
  exact Except.ok.inj (ho''.symm.trans ho)

theorem ofDocument_eq_ok_iff {o : Overlay} :
    ofDocument d = .ok o ↔ WellFormed d ∧ Describes d o ∧ o.validate = .ok () := by
  simp only [ofDocument_eq, bind_eq_ok_iff, assembled_eq_ok_iff_wellFormed, checked_eq_ok_iff]
  constructor
  · rintro ⟨o, ⟨hwell, hdescribes⟩, rfl, hvalid⟩
    exact ⟨hwell, hdescribes, hvalid⟩
  · rintro ⟨hwell, hdescribes, hvalid⟩
    exact ⟨o, ⟨hwell, hdescribes⟩, rfl, hvalid⟩

theorem ofDocument_eq_error_iff {e : FileError} :
    ofDocument d = .error e ↔ FirstOf (complaints d) e ∨
      WellFormed d ∧ ∃ o cause, Describes d o ∧ o.validate = .error cause ∧
        e = .invalidOverlay cause := by
  simp only [ofDocument_eq, bind_eq_error_iff, failsBy_assembled e, assembled_eq_ok_iff_wellFormed,
    checked_eq_error_iff, and_assoc, exists_and_left]

/-- A document is read as an overlay exactly if each value that is given can be read, a grid has its
rectangle, no pad template is blank and the overlay that the document then describes passes its
check. Each field of it is the value of its key, or the default where no value is given; a pad
template is the last one of its key. Otherwise the error is the first complaint about the document,
and only if there is none what the check says. -/
theorem ofDocument_outcome (d : Document) :
    (WellFormed d → ∃! o, Describes d o) ∧
    (∀ o, ofDocument d = .ok o ↔ WellFormed d ∧ Describes d o ∧ o.validate = .ok ()) ∧
    (∀ e, ofDocument d = .error e ↔ FirstOf (complaints d) e ∨
      WellFormed d ∧ ∃ o cause, Describes d o ∧ o.validate = .error cause ∧
        e = .invalidOverlay cause) ∧
    ∀ o, Describes d o → ∀ key template, o.padding.template? key = some template ↔
      ∃ before after, (d.entriesUnder "zero_padding").map trimmed =
        before ++ (key, template) :: after ∧ ∀ entry ∈ after, entry.1 ≠ key := by
  refine ⟨fun h => h.existsUnique_describes, fun o => ofDocument_eq_ok_iff,
    fun e => ofDocument_eq_error_iff, fun o h key template => ?_⟩
  rw [h.padding, Padding.template?_ofList_eq_some_iff]

/-! The width is read before the height, whatever their order in the document. -/

example : ofDocument ⟨[], [⟨"overlay", [("tile_height", "x"), ("tile_width", " -1 ")]⟩]⟩ =
    .error (.invalidValue "overlay" "tile_width" "-1" .pixelCount) :=
  rfl

end Overlay

end RasterOverlay
