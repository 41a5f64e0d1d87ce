import RasterOverlay.Command.Json
import RasterOverlay.TileLoader

/-!
What the commands print: the description of an overlay, and the summary of a loaded tile as text or
as JSON. The values of request headers and of the access token are never printed by the description.
-/

namespace RasterOverlay.Command

/-- A line that begins with a name, whose text starts in a fixed column. -/
def labelled (width : Nat) (label text : String) : String :=
  label ++ ":" ++ String.ofList (List.replicate (width - label.length - 1) ' ') ++ text

def listed (items : List String) : String := ", ".intercalate items

/-- The lines that describe an overlay. -/
def describe (o : Overlay) : List String :=
  let line := labelled 17
  let number (n : UInt32) := Text.ofNat n.toNat
  let p := o.placement
  let strategy := match o.source with
    | .template => o.source.name
    | .wmts => o.source.name ++ " (" ++ (Wmts.RequestStyle.ofUrl o.url).name ++ ")"
  let always := [
    line "Overlay" o.name,
    line "Strategy" strategy,
    line "URL" o.url,
    line "Projection" p.projection.kind.name,
    line "Root columns" (number p.rootColumns),
    line "Tiling scheme" (p.grid.extent.describe ++ " (" ++ number p.grid.rootColumns ++ "x" ++
      number p.grid.rootRows ++ " root tiles)"),
    line "Coverage" p.coverage.describe,
    line "Levels" (number o.minLevel ++ "-" ++ number o.maxLevel ++ " (bias " ++
      Text.ofInt o.levelBias.toInt ++ ")"),
    line "Tile size" (number o.tileWidth ++ "x" ++ number o.tileHeight)]
  let subdomains :=
    if o.subdomains.isEmpty then [] else [line "Subdomains" (listed o.subdomains.names)]
  let labels :=
    if o.matrixLabels.isEmpty then []
    else [line "Matrix labels" (listed o.matrixLabels ++ " (" ++
      Text.ofNat o.matrixLabels.length ++ " levels)")]
  let service := match o.source with
    | .template => []
    | .wmts =>
      let s := o.wmts.parameters
      line "WMTS" ("layer=" ++ s.layer ++ " style=" ++ s.style ++ " set=" ++ s.matrixSet ++
        " format=" ++ s.format ++ " version=" ++ s.version) ::
        (s.token.map fun (name, _) => line "Token parameter" name).toList
  let flip := if o.flipRows then [line "Flip Y" "yes"] else []
  let headers :=
    if o.headers.isEmpty then [] else [line "Headers" (listed (o.headers.map Prod.fst))]
  let credit := (o.credit.map (line "Credit")).toList
  always ++ subdomains ++ labels ++ service ++ flip ++ headers ++ credit

/-- What is told of a tile after it was asked for. -/
structure Summary where
  overlay : String
  tile : Tile
  url : Option String
  /-- The path that the image was written to. -/
  output : Option String
  milliseconds : Nat
  result : LoadedTile

namespace Summary

def textLines (s : Summary) : List String :=
  let line := labelled 10
  let loaded :=
    if s.result.isLoaded then
      [line "Loaded" (Text.ofNat s.result.imageSize ++ " bytes in " ++ Text.ofNat s.milliseconds ++
        " ms")]
    else []
  [line "Overlay" s.overlay, line "Tile" s.tile.describe] ++ (s.url.map (line "URL")).toList ++
    [line "Extent" s.result.rectangle.describe,
      line "Refine" (if s.result.moreDetail then "more detail available" else "maximum level")] ++
    loaded ++ (s.output.map (line "Saved")).toList

def json (s : Summary) : Json :=
  let number (n : UInt32) : Json := .integer n.toNat
  let texts (items : List String) : Json := .array (items.map .string)
  let r := s.result.rectangle
  .object [
    ("overlay", .string s.overlay),
    ("tile", .object [("level", number s.tile.level), ("x", number s.tile.column),
      ("y", number s.tile.row)]),
    ("url", .ofOption s.url),
    ("bytes", .integer s.result.imageSize),
    ("output", .ofOption s.output),
    ("elapsed_ms", .integer s.milliseconds),
    ("result", .object [
      ("rectangle", .object [("minimum_x", .float r.minX), ("minimum_y", .float r.minY),
        ("maximum_x", .float r.maxX), ("maximum_y", .float r.maxY)]),
      ("warnings", texts s.result.warnings),
      ("errors", texts s.result.errors),
      ("credits", texts s.result.credits),
      ("more_detail_available", .boolean s.result.moreDetail)])]

def lines (json : Bool) (s : Summary) : List String :=
  if json then s.json.lines 0 else s.textLines

end Summary

end RasterOverlay.Command
