import RasterOverlay.Number.Fixed
import RasterOverlay.Projection

/-!
Where an overlay lies: its projection, the grid of its tiles and the rectangle it covers. The grid
and the coverage follow from the projection unless they are given, each on its own.
-/

namespace RasterOverlay

/-- Edges are shown with three decimals. -/
def Rectangle.edgeNotation : FixedNotation :=
  { decimals := 3, signedZero := true, notNumber := "NaN" }

def Rectangle.describe (r : Rectangle Float) : String :=
  let edge := Rectangle.edgeNotation.write
  "[" ++ edge r.minX ++ ", " ++ edge r.minY ++ "] - [" ++ edge r.maxX ++ ", " ++ edge r.maxY ++ "]"

structure Placement where
  projection : Projection
  /-- The columns of root tiles that go with the projection, whatever the grid has. -/
  rootColumns : UInt32
  grid : Grid Float
  coverage : Rectangle Float

namespace Placement

/-- Without a projection the overlay is geographic on the given ellipsoid. -/
def resolve (projection : Option Projection) (grid : Option (Grid Float))
    (coverage : Option (Rectangle Float)) (ellipsoid : Option Ellipsoid) : Placement :=
  let projection := projection.getD ⟨.geographic, ellipsoid.getD .wgs84⟩
  let globe := projection.projectRectangle projection.globe
  { projection
    rootColumns := projection.rootColumns
    grid := grid.getD (.ofRoots globe projection.rootColumns 1)
    coverage := coverage.getD globe }

/-- The tile of a level under a position in degrees. -/
def tileAtDegrees? (p : Placement) (longitude latitude : Float) (level : UInt32) : Option Tile :=
  let (x, y) := p.projection.project (Angle.ofDegrees longitude) (Angle.ofDegrees latitude)
  p.grid.tileAt? x y level

end Placement

end RasterOverlay
