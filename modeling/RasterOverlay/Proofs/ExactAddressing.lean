import Mathlib
import RasterOverlay.Addressing
import RasterOverlay.Proofs.ExactSpans

/-!
URLs by exact arithmetic. Both ways of addressing compute numbers for the placeholders of a text and
put them between slices of the text. So the checked computation of a URL is the running one with the
checked computation of each number and of each position in its place.

Two sums are left out, those of the room that is made in advance: the length of a text to be filled in
and 16, and the lengths of the two parts of a URL with a query. They choose no character of the result.
Nor can they leave their type, since a text takes at most half of the lengths that a word can count.
-/

namespace RasterOverlay.Exact

/-! ## Templates -/

section

variable (a : TemplateAddressing) (g : Grid Float) (t : Tile)

def number : TileNumber → ExceptT TileError Exact UInt64
  | .column => ExceptT.lift (cast UInt32.toUInt64 t.column)
  | .row => do
    if a.flipRows then
      match ← ExceptT.lift (flippedRow? t) with
      | some row => return row
      | none => throw (.outsideGrid t)
    else ExceptT.lift (cast UInt32.toUInt64 t.row)
  | .level => do
    let level ← ExceptT.mk (biased t.level a.levelBias)
    ExceptT.lift (cast UInt32.toUInt64 level)
  | .reversedColumn => do
    let columns ← ExceptT.lift (columnsAt g t.level)
    match ← ExceptT.lift (invertRow columns t.column) with
    | some column => ExceptT.lift (cast UInt32.toUInt64 column)
    | none => throw (.outsideGrid t)
  | .reversedRow => do
    let rows ← ExceptT.lift (rowsAt g t.level)
    match ← ExceptT.lift (invertRow rows t.row) with
    | some row => ExceptT.lift (cast UInt32.toUInt64 row)
    | none => throw (.outsideGrid t)
  | .reversedLevel => do
    let level ← ExceptT.lift (reversedLevel a.maxLevel t.level)
    ExceptT.lift (cast UInt32.toUInt64 level)

/-- The zeros in front of a number are those that its digits leave of the width. -/
def fill (width : ℕ) (digits : List Char) : Exact (List Char) := do
  if digits.length < width then
    let zeros ← sub width digits.length
    return List.replicate zeros '0' ++ digits
  else return digits

def pad (p : Padding) (key : String) (n : UInt64) : Exact String := do
  let width := match p.template? key with
    | some template => template.utf8ByteSize
    | none => 0
  return String.ofList (← fill width (Text.digitsOf n.toNat))

def value (name : String) : ExceptT TileError Exact String :=
  match TemplateField.ofName name with
  | .number n => do
    let n ← number a g t n
    ExceptT.lift (pad a.padding name n)
  | .subdomain => do
    match ← ExceptT.lift (select? a.subdomains t) with
    | some subdomain => return subdomain
    | none => throw (.noSubdomains a.template)
  | .tileWidth => return Text.ofNat a.tileWidth.toNat
  | .tileHeight => return Text.ofNat a.tileHeight.toNat
  | .unknown => return name

def templateUrl : ExceptT TileError Exact String := substitute (value a g t) a.template

theorem number_eq (n : TileNumber) : number a g t n = settled (a.number g t n) := by
  cases n with
  | column => rw [number, cast_toUInt64]; rfl
  | row =>
    rw [number, TemplateAddressing.number, flippedRow?_eq, cast_toUInt64]
    cases a.flipRows with
    | true =>
      cases TemplateAddressing.flippedRow? t with
      | none => rfl
      | some row => rfl
    | false => rfl
  | level =>
    rw [number, TemplateAddressing.number, biased_eq]
    cases Level.biased t.level a.levelBias with
    | error e => rfl
    | ok level => exact congrArg ExceptT.lift (cast_toUInt64 level)
  | reversedColumn =>
    rw [number, TemplateAddressing.number, columnsAt_eq]
    show (ExceptT.lift (invertRow _ _) >>= _) = _
    rw [invertRow_eq]
    cases RasterOverlay.invertRow (g.columnsAt t.level) t.column with
    | none => rfl
    | some column => exact congrArg ExceptT.lift (cast_toUInt64 column)
  | reversedRow =>
    rw [number, TemplateAddressing.number, rowsAt_eq]
    show (ExceptT.lift (invertRow _ _) >>= _) = _
    rw [invertRow_eq]
    cases RasterOverlay.invertRow (g.rowsAt t.level) t.row with
    | none => rfl
    | some row => exact congrArg ExceptT.lift (cast_toUInt64 row)
  | reversedLevel =>
    rw [number, TemplateAddressing.number, reversedLevel_eq]
    exact congrArg ExceptT.lift (cast_toUInt64 _)

theorem fill_eq (width : ℕ) (digits : List Char) :
    fill width digits = .ok (List.replicate (width - digits.length) '0' ++ digits) := by
  rw [fill]
  by_cases hshort : digits.length < width
  · rw [if_pos hshort, sub_eq_of_nat (Nat.le_of_lt hshort)]
    rfl
  · rw [if_neg hshort, Nat.sub_eq_zero_of_le (Nat.not_lt.mp hshort)]
    rfl

theorem pad_eq (p : Padding) (key : String) (n : UInt64) : pad p key n = .ok (p.pad key n) := by
  rw [pad, fill_eq]
  rfl

theorem value_eq (name : String) : value a g t name = settled (a.value g t name) := by
  rw [value, TemplateAddressing.value]
  cases TemplateField.ofName name with
  | number n =>
    show (number a g t n >>= _) = settled ((a.number g t n).map (a.padding.pad name))
    rw [number_eq]
    cases a.number g t n with
    | error e => rfl
    | ok n => exact congrArg ExceptT.lift (pad_eq a.padding name n)
  | subdomain =>
    show (ExceptT.lift (select? a.subdomains t) >>= _) = _
    rw [select?_eq]
    cases a.subdomains.select? t with
    | none => rfl
    | some subdomain => rfl
  | tileWidth | tileHeight | unknown => rfl

theorem templateUrl_eq : templateUrl a g t = settled (a.url g t) := by
  rw [templateUrl, show value a g t = fun name => settled (a.value g t name) from
    funext (value_eq a g t), substitute_settled]
  rfl

end

/-! ## Services -/

section

variable (a : Wmts.Addressing) (g : Grid Float) (t : Tile)

def matrixLabel (level : UInt32) : ExceptT TileError Exact String := do
  let available := a.matrixLabels.length
  if 0 < available ∧ available ≤ level.toNat then
    throw (.noMatrixLabel level.toNat available)
  let biased ← ExceptT.mk (biased level a.levelBias)
  if available = 0 then return Text.ofNat biased.toNat
  match a.matrixLabels[biased.toNat]? with
  | some label => return label
  | none => throw (.noMatrixLabel biased.toNat available)

def subdomain : ExceptT TileError Exact String := do
  match ← ExceptT.lift (select? a.subdomains t) with
  | some subdomain => return subdomain
  | none => throw (.noSubdomains a.url)

def baseUrl : ExceptT TileError Exact String :=
  substitute (fun name =>
    if name = "s" then subdomain a t else return Wmts.Addressing.inBraces name) a.url

/-- The slice in front of the first character that begins a query or a fragment. Without one the
slice ends behind the last character. -/
def withoutQuery (base : String) : Exact String := do
  let s := base.toList
  let stop := (s.findIdx? fun c => c == '?' || c == '#').getD s.length
  return String.ofList (← slice s 0 stop)

def queryUrl (cell : Wmts.MatrixCell) : ExceptT TileError Exact String := do
  let base ← baseUrl a t
  let front ← ExceptT.lift (withoutQuery base)
  return front ++ "?" ++ Wmts.Addressing.writeQuery (Wmts.Addressing.queryPairs a.parameters cell)

/-- Of the placeholders of a path only that of the subdomain computes a number. -/
def pathValue (cell : Wmts.MatrixCell) (name : String) : ExceptT TileError Exact String :=
  if name.map Char.toLower = "s" then subdomain a t else settled (a.pathValue t cell name)

def pathUrl (cell : Wmts.MatrixCell) : ExceptT TileError Exact String :=
  substitute (pathValue a t cell) a.url

def matrixCell : ExceptT TileError Exact Wmts.MatrixCell := do
  let label ← matrixLabel a t.level
  if !(← ExceptT.lift (contains g t)) then throw (.outsideGrid t)
  let rows ← ExceptT.lift (rowsAt g t.level)
  match ← ExceptT.lift (invertRow rows t.row) with
  | some row => return ⟨label, row, t.column⟩
  | none => throw (.outsideGrid t)

def serviceUrl : ExceptT TileError Exact String := do
  let cell ← matrixCell a g t
  match a.style with
  | .query => queryUrl a t cell
  | .path => pathUrl a t cell

theorem matrixLabel_eq (level : UInt32) : matrixLabel a level = settled (a.matrixLabel level) := by
  simp only [matrixLabel, Wmts.Addressing.matrixLabel, biased_eq]
  by_cases hshort : 0 < a.matrixLabels.length ∧ a.matrixLabels.length ≤ level.toNat
  · rw [if_pos hshort, if_pos hshort]
    rfl
  · rw [if_neg hshort, if_neg hshort]
    cases Level.biased level a.levelBias with
    | error e => rfl
    | ok biased =>
      show (if a.matrixLabels.length = 0 then _ else _) =
        settled (if a.matrixLabels.length = 0 then _ else _)
      by_cases hnone : a.matrixLabels.length = 0
      · rw [if_pos hnone, if_pos hnone]
        rfl
      · rw [if_neg hnone, if_neg hnone]
        cases a.matrixLabels[biased.toNat]? with
        | none => rfl
        | some label => rfl

theorem subdomain_eq : subdomain a t = settled (a.subdomain t) := by
  rw [subdomain, Wmts.Addressing.subdomain, select?_eq]
  cases a.subdomains.select? t with
  | none => rfl
  | some subdomain => rfl

theorem baseUrl_eq : baseUrl a t = settled (a.baseUrl t) := by
  rw [baseUrl, Wmts.Addressing.baseUrl, ← substitute_settled, subdomain_eq]
  congr 1
  funext name
  by_cases hname : name = "s"
  · rw [if_pos hname, if_pos hname]
  · rw [if_neg hname, if_neg hname]
    rfl

theorem withoutQuery_eq (base : String) :
    withoutQuery base = .ok (Wmts.Addressing.withoutQuery base) := by
  have hmarks : (fun c : Char => !(c != '?' && c != '#')) = fun c => c == '?' || c == '#' := by
    funext c
    rw [Bool.not_and, bne, bne, Bool.not_not, Bool.not_not]
  rw [withoutQuery, Wmts.Addressing.withoutQuery, List.takeWhile_eq_take_findIdx_not, hmarks]
  simp only [← List.findIdx_eq_getD_findIdx?, slice]
  rw [if_pos ⟨Nat.zero_le _, List.findIdx_le_length⟩, List.drop_zero]
  rfl

theorem queryUrl_eq (cell : Wmts.MatrixCell) :
    queryUrl a t cell = settled (a.queryUrl t cell) := by
  rw [queryUrl, Wmts.Addressing.queryUrl, baseUrl_eq, settled_bind]
  refine bind_congr fun base => ?_
  rw [withoutQuery_eq]
  rfl

theorem pathValue_eq (cell : Wmts.MatrixCell) (name : String) :
    pathValue a t cell name = settled (a.pathValue t cell name) := by
  rw [pathValue]
  by_cases hname : name.map Char.toLower = "s"
  · have hvalue : a.pathValue t cell name = a.subdomain t := by
      simp only [Wmts.Addressing.pathValue, hname]
      rfl
    rw [if_pos hname, subdomain_eq, hvalue]
  · rw [if_neg hname]

theorem pathUrl_eq (cell : Wmts.MatrixCell) : pathUrl a t cell = settled (a.pathUrl t cell) := by
  rw [pathUrl, Wmts.Addressing.pathUrl, ← substitute_settled]
  congr 1
  funext name
  exact pathValue_eq a t cell name

theorem matrixCell_eq : matrixCell a g t = settled (a.matrixCell g t) := by
  simp only [matrixCell, Wmts.Addressing.matrixCell, matrixLabel_eq, contains_eq, rowsAt_eq]
  cases a.matrixLabel t.level with
  | error e => rfl
  | ok label =>
    cases hcontains : g.contains t with
    | false => rfl
    | true =>
      show (ExceptT.lift (invertRow _ _) >>= _) = settled (match RasterOverlay.invertRow _ _ with
        | some row => _
        | none => _)
      rw [invertRow_eq]
      cases RasterOverlay.invertRow (g.rowsAt t.level) t.row with
      | none => rfl
      | some row => rfl

theorem serviceUrl_eq : serviceUrl a g t = settled (a.tileUrl g t) := by
  rw [serviceUrl, Wmts.Addressing.tileUrl, matrixCell_eq, settled_bind]
  cases a.style with
  | query => exact bind_congr fun cell => queryUrl_eq a t cell
  | path => exact bind_congr fun cell => pathUrl_eq a t cell

end

/-- The URL of a tile. -/
def url (a : Addressing) (p : Placement) (t : Tile) : ExceptT TileError Exact String :=
  match a with
  | .template a => templateUrl a p.grid t
  | .wmts a => serviceUrl a p.grid t

/-- Whatever the grid, the placement, the tile, the position and the fields of an overlay are: no
count, no parent, no position, no label and no URL is computed with an operation that leaves the
type of its words, with a division by zero or with an index outside a list. -/
theorem index_arithmetic_is_exact (extent : Rectangle Float) (columns rows : UInt32)
    (p : Placement) (a : Addressing) (service : Wmts.Addressing) (t : Tile) (level : UInt32)
    (x y : Float) :
    let g := Grid.ofRoots extent columns rows
    columnsAt g level = .ok (g.columnsAt level) ∧ rowsAt g level = .ok (g.rowsAt level) ∧
    tileAt? g x y level = .ok (g.tileAt? x y level) ∧
    tileAt? p.grid x y level = .ok (p.grid.tileAt? x y level) ∧
    parent? t = .ok t.parent? ∧
    (matrixLabel service level).run = .ok (service.matrixLabel level) ∧
    (url a p t).run = .ok (a.url p t) := by
  intro g
  have hlabel : matrixLabel service level = settled (service.matrixLabel level) :=
    matrixLabel_eq service level
  have hurl : url a p t = settled (a.url p t) := by
    cases a with
    | template a => exact templateUrl_eq a p.grid t
    | wmts a => exact serviceUrl_eq a p.grid t
  refine ⟨columnsAt_eq g level, rowsAt_eq g level, tileAt?_eq g x y level,
    tileAt?_eq p.grid x y level, parent?_eq t, ?_, ?_⟩
  · rw [hlabel]
    rfl
  · rw [hurl]
    rfl

end RasterOverlay.Exact
