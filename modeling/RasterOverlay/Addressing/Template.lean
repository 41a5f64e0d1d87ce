import RasterOverlay.Overlay

/-!
Addressing by a template: each placeholder of the URL names a number or a text of the tile. The
numbers are padded with zeros, the texts are not, and an unknown name stands for itself.
-/

namespace RasterOverlay

/-- The numbers of a tile that a template may ask for. -/
inductive TileNumber where
  | column
  | row
  | level
  | reversedColumn
  | reversedRow
  | reversedLevel
  deriving DecidableEq

/-- What a placeholder of a template stands for. -/
inductive TemplateField where
  | number (n : TileNumber)
  | subdomain
  | tileWidth
  | tileHeight
  | unknown
  deriving DecidableEq

/-- The names are told apart by case. -/
def TemplateField.ofName (name : String) : TemplateField :=
  if name = "x" then .number .column
  else if name = "y" then .number .row
  else if name = "z" then .number .level
  else if name = "reverseX" then .number .reversedColumn
  else if name = "reverseY" then .number .reversedRow
  else if name = "reverseZ" then .number .reversedLevel
  else if name = "s" then .subdomain
  else if name = "width" then .tileWidth
  else if name = "height" then .tileHeight
  else .unknown

structure TemplateAddressing where
  template : String
  subdomains : Subdomains
  padding : Padding
  levelBias : Int32
  maxLevel : UInt32
  tileWidth : UInt32
  tileHeight : UInt32
  flipRows : Bool

namespace TemplateAddressing

/-- Rows may not be inverted twice. -/
def ofOverlay (o : Overlay) : Except TileError TemplateAddressing :=
  if o.invertsRowTwice then .error (.unusable .rowInvertedTwice)
  else .ok {
    template := o.url
    subdomains := o.subdomains
    padding := o.padding
    levelBias := o.levelBias
    maxLevel := o.maxLevel
    tileWidth := o.tileWidth
    tileHeight := o.tileHeight
    flipRows := o.flipRows }

/-- The level counted from the deepest one; there and beyond, the level itself. -/
def reversedLevel (maxLevel level : UInt32) : UInt32 :=
  if level < maxLevel then maxLevel - level - 1 else level

/-- The row counted from the north in a pyramid with one root row. -/
def flippedRow? (t : Tile) : Option UInt64 :=
  let rows : UInt64 := 1 <<< t.level.toUInt64
  let used := t.row.toUInt64 + 1
  if t.level < 64 ∧ used ≤ rows then some (rows - used) else none

def number (a : TemplateAddressing) (g : Grid Float) (t : Tile) :
    TileNumber → Except TileError UInt64
  | .column => .ok t.column.toUInt64
  | .row =>
    if a.flipRows then (flippedRow? t).elim (.error (.outsideGrid t)) .ok
    else .ok t.row.toUInt64
  | .level => (Level.biased t.level a.levelBias).map UInt32.toUInt64
  | .reversedColumn =>
    (invertRow (g.columnsAt t.level) t.column).elim (.error (.outsideGrid t)) (.ok ·.toUInt64)
  | .reversedRow =>
    (invertRow (g.rowsAt t.level) t.row).elim (.error (.outsideGrid t)) (.ok ·.toUInt64)
  | .reversedLevel => .ok (reversedLevel a.maxLevel t.level).toUInt64

/-- The text that replaces a placeholder. -/
def value (a : TemplateAddressing) (g : Grid Float) (t : Tile) (name : String) :
    Except TileError String :=
  match TemplateField.ofName name with
  | .number n => (a.number g t n).map (a.padding.pad name)
  | .subdomain => (a.subdomains.select? t).elim (.error (.noSubdomains a.template)) .ok
  | .tileWidth => .ok (Text.ofNat a.tileWidth.toNat)
  | .tileHeight => .ok (Text.ofNat a.tileHeight.toNat)
  | .unknown => .ok name

def url (a : TemplateAddressing) (g : Grid Float) (t : Tile) : Except TileError String :=
  Template.substitute (a.value g t) a.template

end TemplateAddressing

end RasterOverlay
