import RasterOverlay.Overlay.Value

/-!
Overlays from documents. A key that is absent or blank leaves its default; a value that is present
is read or refused, in the order in which the keys are listed here, and never replaced.
-/

namespace RasterOverlay

/-- A section of a document and the name it is reported under. -/
structure Heading where
  name : String
  body : Ini.Section

namespace Heading

/-- The section of this name; an absent one is an empty one. -/
def ofDocument (d : Ini.Document) (name : String) : Heading :=
  ⟨name, (d.section? name).getD ⟨name, []⟩⟩

/-- The value of a key, unless it is blank. -/
def text? (h : Heading) (key : String) : Option String := (h.body.get? key).bind Text.filled?

/-- The value of a key as its reader reads it. -/
def value? {α : Type} (h : Heading) (key : String) (read : String → Except Expectation α) :
    Except FileError (Option α) :=
  match h.text? key with
  | none => .ok none
  | some text =>
    match read text with
    | .ok value => .ok (some value)
    | .error expected => .error (.invalidValue h.name key text expected)

/-- The value of a key as a whole number. -/
def count? (h : Heading) (key : String) (expected : Expectation) :
    Except FileError (Option UInt32) :=
  h.value? key (Value.orExpect expected Text.uint32?)

end Heading

namespace Overlay

/-- What the section of the overlay itself gives. -/
def ofHeading (h : Heading) : Except FileError Overlay := do
  let defaults : Overlay := {}
  let source ← h.value? "type" SourceKind.read
  let projection ← h.value? "projection" ProjectionKind.read
  let ellipsoid ← h.value? "ellipsoid" Value.ellipsoid
  let coverage ← h.value? "coverage_rectangle" Value.rectangle
  let tileWidth ← h.count? "tile_width" .pixelCount
  let tileHeight ← h.count? "tile_height" .pixelCount
  let minLevel ← h.count? "minimum_level" .levelNumber
  let maxLevel ← h.count? "maximum_level" .levelNumber
  let levelBias ← h.value? "level_bias" (Value.orExpect .signedInteger Text.int32?)
  let flipRows ← h.value? "flip_y" (Value.orExpect .truthValue Value.truth?)
  return {
    name := (h.text? "name").getD defaults.name
    source := source.getD defaults.source
    url := (h.text? "url").getD defaults.url
    credit := h.text? "credit"
    projection := projection.map fun kind => ⟨kind, ellipsoid.getD .wgs84⟩
    ellipsoid := if projection.isSome then none else ellipsoid
    coverage := coverage
    tileWidth := tileWidth.getD defaults.tileWidth
    tileHeight := tileHeight.getD defaults.tileHeight
    minLevel := minLevel.getD defaults.minLevel
    maxLevel := maxLevel.getD defaults.maxLevel
    levelBias := levelBias.getD defaults.levelBias
    subdomains := (h.text? "subdomains").elim defaults.subdomains Subdomains.parse
    matrixLabels := (h.text? "tile_matrix_labels").elim defaults.matrixLabels Text.commaList
    flipRows := flipRows.getD defaults.flipRows }

/-- The grid that a section gives, which needs a rectangle. -/
def gridOfHeading (h : Heading) : Except FileError (Grid Float) := do
  let some extent ← h.value? "rectangle" Value.rectangle
    | throw (.invalidValue h.name "rectangle" "" .gridRectangle)
  let columns ← h.count? "root_tiles_x" .tileCount
  let rows ← h.count? "root_tiles_y" .tileCount
  return .ofRoots extent (columns.getD 1) (rows.getD 1)

def wmtsOfHeading (h : Heading) : Wmts.Options where
  layer := h.text? "layer"
  style := h.text? "style"
  matrixSet := h.text? "tile_matrix_set"
  format := h.text? "format"
  version := h.text? "version"
  tokenName := h.text? "token_name"
  tokenValue := h.text? "token_value"

/-- The pad templates of a section, none of which may be blank. -/
def paddingOfHeading (h : Heading) : Except FileError Padding :=
  h.body.entries.foldlM (fun padding (key, template) =>
    match Text.filled? template with
    | some template => .ok (padding.insert (Text.trim key) template)
    | none => .error (.invalidValue h.name key "" .padTemplate)) .empty

def headersOfHeading (h : Heading) : List (String × String) :=
  h.body.entries.map fun (name, value) => (Text.trim name, Text.trim value)

/-- The overlay that a document describes. -/
def ofDocument (d : Ini.Document) : Except FileError Overlay := do
  let overlay ← ofHeading (.ofDocument d "overlay")
  let grid ←
    if (d.section? "tiling_scheme").isSome then
      some <$> gridOfHeading (.ofDocument d "tiling_scheme")
    else pure none
  let padding ← paddingOfHeading (.ofDocument d "zero_padding")
  let overlay := { overlay with
    grid := grid
    wmts := wmtsOfHeading (.ofDocument d "wmts")
    padding := padding
    headers := headersOfHeading (.ofDocument d "headers") }
  match overlay.validate with
  | .ok () => return overlay
  | .error cause => throw (.invalidOverlay cause)

/-- The overlay that the text of a document describes. -/
def ofText (text : String) : Except FileError Overlay :=
  match Ini.Document.ofText text with
  | .ok d => ofDocument d
  | .error e => .error (.unreadable (.syntaxError e))

/-- The text of a file: UTF-8, with or without a byte order mark. -/
def fileText? (bytes : ByteArray) : Option String :=
  let marked := bytes.toList.take 3 == [0xef, 0xbb, 0xbf]
  String.fromUTF8? (if marked then bytes.extract 3 bytes.size else bytes)

end Overlay

/-- What a path leads to. -/
inductive FileContent where
  | missing
  | unreadable (reason : String)
  | bytes (content : ByteArray)

/-- The overlay that the file at a path describes. -/
def Overlay.ofFile (path : String) (content : FileContent) : Except FileError Overlay :=
  match content with
  | .missing => .error (.notFound path)
  | .unreadable reason => .error (.unreadable (.system reason))
  | .bytes content =>
    match fileText? content with
    | some text => ofText text
    | none => .error (.unreadable .notUtf8)

end RasterOverlay
