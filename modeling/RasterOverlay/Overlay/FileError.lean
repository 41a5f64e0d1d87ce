import RasterOverlay.Ini.Reader
import RasterOverlay.TileError

/-!
Why a file does not describe an overlay: it is missing, it cannot be read as a document, a value in
it is not of the kind that its key asks for, or the values do not go together.
-/

namespace RasterOverlay

/-- Why a file cannot be read as a document. -/
inductive ReadFault where
  | syntaxError (e : Ini.SyntaxError)
  | notUtf8
  | system (reason : String)
  deriving DecidableEq

def ReadFault.message : ReadFault → String
  | syntaxError e => e.message
  | notUtf8 => "stream did not contain valid UTF-8"
  | system reason => reason

/-- What a value should have been. -/
inductive Expectation where
  | pixelCount
  | levelNumber
  | signedInteger
  | tileCount
  | truthValue
  | ellipsoid
  | rectangle
  | orderedRectangle
  | gridRectangle
  | padTemplate
  /-- The word found, in lower case. -/
  | sourceKind (found : String)
  | projection (found : String)
  deriving DecidableEq

def Expectation.message : Expectation → String
  | pixelCount => "expected pixel count"
  | levelNumber => "expected level number"
  | signedInteger => "expected signed integer"
  | tileCount => "expected tile count"
  | truthValue => "expected true or false"
  | ellipsoid => "expected 'wgs84' or three positive radii 'a,b,c'"
  | rectangle => "expected 'min_x,min_y,max_x,max_y'"
  | orderedRectangle => "minimum exceeds maximum"
  | gridRectangle => "a tiling scheme needs a rectangle"
  | padTemplate => "pad template is empty"
  | sourceKind found => "unknown overlay type '" ++ found ++ "'"
  | projection found => "unsupported projection '" ++ found ++
      "': expected geographic (EPSG:4326) or web_mercator (EPSG:3857)"

inductive FileError where
  | notFound (path : String)
  | unreadable (fault : ReadFault)
  | invalidValue (heading key value : String) (expected : Expectation)
  | invalidOverlay (cause : TileError)
  deriving DecidableEq

def FileError.message : FileError → String
  | notFound path => "Overlay file not found: " ++ path
  | unreadable fault => "Failed to read overlay file: " ++ fault.message
  | invalidValue heading key value expected =>
    "Invalid configuration: " ++ heading ++ "." ++ key ++ " = '" ++ value ++ "' - " ++
      expected.message
  | invalidOverlay cause => "Invalid overlay: " ++ cause.message

end RasterOverlay
