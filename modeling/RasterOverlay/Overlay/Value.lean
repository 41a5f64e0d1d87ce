import RasterOverlay.Number.Reading
import RasterOverlay.Overlay
import RasterOverlay.Overlay.FileError

/-!
The kinds of value that the description of an overlay holds, each with its reader. A reader is
given the text without the blanks around it and says what it expected if it cannot read it.
-/

namespace RasterOverlay

/-- The kind of source that a text names. -/
def SourceKind.read (text : String) : Except Expectation SourceKind :=
  match SourceKind.ofName? text with
  | some kind => .ok kind
  | none => .error (.sourceKind (Text.lowercase (Text.trim text)))

/-- The kind of projection that a text names. -/
def ProjectionKind.read (text : String) : Except Expectation ProjectionKind :=
  match ProjectionKind.ofName? text with
  | some kind => .ok kind
  | none => .error (.projection (Text.trim text))

namespace Value

def orExpect {α : Type} (expected : Expectation) (read : String → Option α) (text : String) :
    Except Expectation α :=
  match read text with
  | some value => .ok value
  | none => .error expected

/-- The numbers of a comma-separated list, all of which have to be numbers. -/
def floats? (text : String) : Option (List Float) :=
  (Text.pieces ',' text).mapM fun piece => Number.float? (Text.trim piece)

/-- Four numbers, the minimum of each axis not beyond its maximum. -/
def rectangle (text : String) : Except Expectation (Rectangle Float) :=
  match floats? text with
  | some [minX, minY, maxX, maxY] =>
    if maxX < minX ∨ maxY < minY then .error .orderedRectangle
    else .ok ⟨minX, minY, maxX, maxY⟩
  | _ => .error .rectangle

/-- A name, or three radii that are greater than zero. -/
def ellipsoid (text : String) : Except Expectation Ellipsoid :=
  if Text.sameLetters text "wgs84" then .ok .wgs84
  else match floats? text with
    | some [x, y, z] =>
      if 0.0 < x ∧ 0.0 < y ∧ 0.0 < z then .ok ⟨x, y, z⟩ else .error .ellipsoid
    | _ => .error .ellipsoid

def truth? (text : String) : Option Bool :=
  let word := Text.lowercase text
  if ["true", "yes", "1", "on"].contains word then some true
  else if ["false", "no", "0", "off"].contains word then some false
  else none

end Value

end RasterOverlay
