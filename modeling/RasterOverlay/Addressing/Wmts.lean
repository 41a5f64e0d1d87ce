import RasterOverlay.Overlay
import RasterOverlay.Url

/-!
Addressing a Web Map Tile Service. A service is called in one of two styles: with a query that is
put behind a base URL, or with a path whose placeholders are filled in. Its rows are counted from
the north, and its levels may have names of their own.
-/

namespace RasterOverlay.Wmts

inductive RequestStyle where
  | query
  | path
  deriving DecidableEq

namespace RequestStyle

def name : RequestStyle → String
  | query => "kvp"
  | path => "rest"

/-- Whether the placeholder of the subdomain occurs in a text, braces around it or not. -/
def mentionsSubdomain : List Char → Bool
  | '{' :: 's' :: '}' :: _ => true
  | _ :: rest => mentionsSubdomain rest
  | [] => false

/-- A URL with no opening brace, or with one that belongs to the placeholder of the subdomain, is a
base URL; any other is a path. -/
def ofUrl (url : String) : RequestStyle :=
  match url.toList.count '{' with
  | 0 => query
  | 1 => if mentionsSubdomain url.toList then query else path
  | _ => path

end RequestStyle

/-- The text with a subdomain in each place that asks for one, whatever stands around it. -/
def putSubdomain (name : List Char) : List Char → List Char
  | '{' :: 's' :: '}' :: rest => name ++ putSubdomain name rest
  | c :: rest => c :: putSubdomain name rest
  | [] => []

structure Addressing where
  url : String
  style : RequestStyle
  parameters : Parameters
  subdomains : Subdomains
  matrixLabels : List String
  levelBias : Int32

/-- Where a request finds its tile in the matrix of a level. -/
structure MatrixCell where
  label : String
  row : UInt32
  column : UInt32

namespace Addressing

/-- A base URL is checked once, with the first subdomain in it. -/
def ofOverlay (o : Overlay) : Except TileError Addressing := do
  let style := RequestStyle.ofUrl o.url
  if style = .query then
    let sample := putSubdomain (o.subdomains.names.headD "s").toList o.url.toList
    match Url.ofText (String.ofList sample) with
    | .error reason => throw (.unusable (.baseUrl o.url reason))
    | .ok _ => pure ()
  return {
    url := o.url
    style := style
    parameters := o.wmts.parameters
    subdomains := o.subdomains
    matrixLabels := o.matrixLabels
    levelBias := o.levelBias }

/-- The server's name for a level. If there are names at all, there has to be one for the level and
one for the level after the bias. -/
def matrixLabel (a : Addressing) (level : UInt32) : Except TileError String := do
  let available := a.matrixLabels.length
  if 0 < available ∧ available ≤ level.toNat then
    throw (.noMatrixLabel level.toNat available)
  let biased ← Level.biased level a.levelBias
  if available = 0 then return Text.ofNat biased.toNat
  match a.matrixLabels[biased.toNat]? with
  | some label => return label
  | none => throw (.noMatrixLabel biased.toNat available)

def subdomain (a : Addressing) (t : Tile) : Except TileError String :=
  (a.subdomains.select? t).elim (.error (.noSubdomains a.url)) .ok

/-- The name in its braces, as it stood in the URL. -/
def inBraces (name : String) : String := "\x7b" ++ name ++ "\x7d"

/-- The pairs of the query of a request, in their order. -/
def queryPairs (p : Parameters) (cell : MatrixCell) : List (String × String) :=
  [("service", "wmts"), ("request", "gettile"), ("version", p.version), ("layer", p.layer),
    ("style", p.style), ("tilematrixset", p.matrixSet), ("format", p.format),
    ("tilematrix", cell.label), ("tilerow", Text.ofNat cell.row.toNat),
    ("tilecol", Text.ofNat cell.column.toNat)] ++ p.token.toList

def writeQuery (pairs : List (String × String)) : String :=
  "&".intercalate (pairs.map fun (name, value) => name ++ "=" ++ value)

/-- The base URL of a tile; of the placeholders only that of the subdomain is filled in. -/
def baseUrl (a : Addressing) (t : Tile) : Except TileError String :=
  Template.substitute (fun name => if name = "s" then a.subdomain t else .ok (inBraces name)) a.url

/-- The text before any query or fragment. -/
def withoutQuery (url : String) : String :=
  String.ofList (url.toList.takeWhile fun c => c != '?' && c != '#')

/-- The query takes the place of any query or fragment of the base URL. -/
def queryUrl (a : Addressing) (t : Tile) (cell : MatrixCell) : Except TileError String := do
  let base ← a.baseUrl t
  return withoutQuery base ++ "?" ++ writeQuery (queryPairs a.parameters cell)

/-- The text that replaces a placeholder of a path. The case of known names does not count, and an
unknown name stays with its braces. -/
def pathValue (a : Addressing) (t : Tile) (cell : MatrixCell) (name : String) :
    Except TileError String :=
  let word := name.map Char.toLower
  if word = "layer" then .ok a.parameters.layer
  else if word = "style" then .ok a.parameters.style
  else if word = "tilematrixset" then .ok a.parameters.matrixSet
  else if word = "tilematrix" then .ok cell.label
  else if word = "tilerow" then .ok (Text.ofNat cell.row.toNat)
  else if word = "tilecol" then .ok (Text.ofNat cell.column.toNat)
  else if word = "s" then a.subdomain t
  else .ok (inBraces name)

def pathUrl (a : Addressing) (t : Tile) (cell : MatrixCell) : Except TileError String :=
  Template.substitute (a.pathValue t cell) a.url

/-- The cell of a tile, with its row counted from the north. -/
def matrixCell (a : Addressing) (g : Grid Float) (t : Tile) : Except TileError MatrixCell := do
  let label ← a.matrixLabel t.level
  if !g.contains t then throw (.outsideGrid t)
  match invertRow (g.rowsAt t.level) t.row with
  | some row => return ⟨label, row, t.column⟩
  | none => throw (.outsideGrid t)

def tileUrl (a : Addressing) (g : Grid Float) (t : Tile) : Except TileError String := do
  let cell ← a.matrixCell g t
  match a.style with
  | .query => a.queryUrl t cell
  | .path => a.pathUrl t cell

end Addressing

end RasterOverlay.Wmts
