import RasterOverlay.Level
import RasterOverlay.Padding
import RasterOverlay.Placement
import RasterOverlay.Subdomains
import RasterOverlay.Template
import RasterOverlay.Wmts.Parameters

/-!
The description of a raster overlay: where its tiles lie and how they are asked for. Some
descriptions are of no use for any tile and are refused as a whole; what fails for single tiles
only is left to the requests.
-/

namespace RasterOverlay

/-- How the tiles of an overlay are addressed. -/
inductive SourceKind where
  | template
  | wmts
  deriving DecidableEq

namespace SourceKind

def name : SourceKind → String
  | template => "url_template"
  | wmts => "wmts"

/-- The names that a kind goes by, in lower case. -/
def spellings : SourceKind → List String
  | template => ["url_template", "urltemplate", "template", "xyz"]
  | wmts => ["wmts"]

/-- The kind that a text names, up to case and the blanks around it. -/
def ofName? (text : String) : Option SourceKind :=
  let word := Text.lowercase (Text.trim text)
  [template, wmts].find? fun kind => kind.spellings.contains word

end SourceKind

/-- Everything that is not given has the value it has here. -/
structure Overlay where
  name : String := "overlay"
  source : SourceKind := .template
  url : String := ""
  headers : List (String × String) := []
  credit : Option String := none
  projection : Option Projection := none
  grid : Option (Grid Float) := none
  coverage : Option (Rectangle Float) := none
  /-- The ellipsoid to use if no projection is given. -/
  ellipsoid : Option Ellipsoid := none
  tileWidth : UInt32 := 256
  tileHeight : UInt32 := 256
  minLevel : UInt32 := 0
  maxLevel : UInt32 := 25
  levelBias : Int32 := 0
  subdomains : Subdomains := .empty
  padding : Padding := .empty
  /-- The server's names for the levels; without any, levels are written as numbers. -/
  matrixLabels : List String := []
  /-- Whether `y` counts the rows of a square pyramid from the north. -/
  flipRows : Bool := false
  wmts : Wmts.Options := {}

namespace Overlay

def placement (o : Overlay) : Placement :=
  Placement.resolve o.projection o.grid o.coverage o.ellipsoid

/-- Whether flipped rows meet a placeholder that counts rows from the north on its own. -/
def invertsRowTwice (o : Overlay) : Bool := o.flipRows && Template.mentions o.url "reverseY"

/-- The first defect of the description as a whole. -/
def defect? (o : Overlay) : Option Defect :=
  if (Text.filled? o.url).isNone then some (.noUrl o.name)
  else if o.maxLevel < o.minLevel then some (.levelsReversed o.minLevel o.maxLevel)
  else if Level.deepest < o.maxLevel then some (.levelTooDeep o.maxLevel Level.deepest)
  else if o.tileWidth = 0 ∨ o.tileHeight = 0 then some (.emptyTiles o.tileWidth o.tileHeight)
  else if o.source = .template ∧ o.invertsRowTwice then some .rowInvertedTwice
  else none

def validate (o : Overlay) : Except TileError Unit :=
  match o.defect? with
  | some defect => .error (.unusable defect)
  | none => .ok ()

end Overlay

end RasterOverlay
