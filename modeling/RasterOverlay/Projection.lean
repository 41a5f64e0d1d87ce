import RasterOverlay.Text.Lowercase
import RasterOverlay.Grid

/-!
The two projections of tiled maps. Both scale by the greatest radius of an ellipsoid, and they
differ in what they do to the latitude and in the part of the globe that they show.
-/

namespace RasterOverlay

/-- Three radii in metres. -/
structure Ellipsoid where
  radiusX : Float
  radiusY : Float
  radiusZ : Float

namespace Ellipsoid

def wgs84 : Ellipsoid := ⟨6378137.0, 6378137.0, 6356752.314245179⟩

def unitSphere : Ellipsoid := ⟨1.0, 1.0, 1.0⟩

/-- The greater of two radii; one that is not a number gives way to the other. -/
def greater (a b : Float) : Float :=
  if a.isNaN then b else if b.isNaN then a else if a < b then b else a

def greatestRadius (e : Ellipsoid) : Float := greater (greater e.radiusX e.radiusY) e.radiusZ

end Ellipsoid

/-- A part of the globe, in radians. -/
structure GlobeRectangle where
  west : Float
  south : Float
  east : Float
  north : Float

namespace Angle

def pi : Float := 3.14159265358979323846

def halfPi : Float := 1.57079632679489661923

/-- An angle in degrees, in radians. -/
def ofDegrees (degrees : Float) : Float := degrees * (pi / 180.0)

end Angle

def GlobeRectangle.ofDegrees (west south east north : Float) : GlobeRectangle :=
  ⟨Angle.ofDegrees west, Angle.ofDegrees south, Angle.ofDegrees east, Angle.ofDegrees north⟩

inductive ProjectionKind where
  | geographic
  | webMercator
  deriving DecidableEq

namespace ProjectionKind

def name : ProjectionKind → String
  | geographic => "geographic"
  | webMercator => "web_mercator"

/-- The names that a projection goes by, in lower case. -/
def spellings : ProjectionKind → List String
  | geographic => ["geographic", "wgs84", "epsg:4326", "crs:84"]
  | webMercator => ["web_mercator", "webmercator", "mercator", "epsg:3857", "epsg:900913"]

/-- The kind that a text names, up to case and the blanks around it. -/
def ofName? (text : String) : Option ProjectionKind :=
  let word := Text.lowercase (Text.trim text)
  [geographic, webMercator].find? fun kind => kind.spellings.contains word

end ProjectionKind

structure Projection where
  kind : ProjectionKind
  ellipsoid : Ellipsoid

namespace Mercator

/-- The latitude at which the projected globe becomes a square. -/
def greatestLatitude : Float := 1.4844222297453324

/-- A number held between two bounds; what is not a number stays as it is. -/
def clamp (low high x : Float) : Float := if x < low then low else if high < x then high else x

/-- The angle on the cylinder for a latitude, which is held to the part of the globe shown. -/
def angleOfLatitude (latitude : Float) : Float :=
  let sine := (clamp (-greatestLatitude) greatestLatitude latitude).sin
  0.5 * ((1.0 + sine) / (1.0 - sine)).log

/-- The latitude of an angle on the cylinder. -/
def latitudeOfAngle (angle : Float) : Float := Angle.halfPi - 2.0 * (-angle).exp.atan

end Mercator

namespace Projection

/-- The columns of root tiles that a global pyramid has by convention. -/
def rootColumns (p : Projection) : UInt32 :=
  match p.kind with
  | .geographic => 2
  | .webMercator => 1

/-- The greatest part of the globe that the projection shows. -/
def globe (p : Projection) : GlobeRectangle :=
  match p.kind with
  | .geographic => ⟨-Angle.pi, -Angle.halfPi, Angle.pi, Angle.halfPi⟩
  | .webMercator => ⟨-Angle.pi, -Mercator.greatestLatitude, Angle.pi, Mercator.greatestLatitude⟩

/-- Longitude and latitude in radians, on the plane. -/
def project (p : Projection) (longitude latitude : Float) : Float × Float :=
  let radius := p.ellipsoid.greatestRadius
  let height := match p.kind with
    | .geographic => latitude
    | .webMercator => Mercator.angleOfLatitude latitude
  (longitude * radius, height * radius)

/-- The rectangle between the projected south-west and north-east corners. -/
def projectRectangle (p : Projection) (r : GlobeRectangle) : Rectangle Float :=
  let (minX, minY) := p.project r.west r.south
  let (maxX, maxY) := p.project r.east r.north
  ⟨minX, minY, maxX, maxY⟩

end Projection

end RasterOverlay
