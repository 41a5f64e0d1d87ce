import RasterOverlay.Number.Shortest
import RasterOverlay.Overlay.FileError

/-!
Why a command fails, and what is written about it: the reason, and for some failures a hint of what
to do.
-/

namespace RasterOverlay.Command

inductive Failure where
  | file (e : FileError)
  | tile (e : TileError)
  | outsidePosition (longitude latitude : Float) (level : UInt32)
  | notLoaded (errors : List String)
  | notWritten (path reason : String)

namespace Failure

/-- Degrees have as many digits as they need and never an exponent. -/
def degreeNotation : ShortestNotation :=
  { plainPlaces := none, wholePoint := false, halfUp := true }

def message : Failure → String
  | file e => "Configuration error: " ++ e.message
  | tile e => e.message
  | outsidePosition longitude latitude level =>
    "Position " ++ degreeNotation.write longitude ++ ", " ++ degreeNotation.write latitude ++
      " is outside the overlay's tiling scheme at level " ++ Text.ofNat level.toNat
  | notLoaded errors => "Tile could not be loaded: " ++ "; ".intercalate errors
  | notWritten path reason => "Failed to write file '" ++ path ++ "': " ++ reason

/-- What to do about the failure, given the place of the default file. -/
def hint (defaultPath : String) : Failure → List String
  | file (.notFound _) =>
    ["", "Pass an overlay file with --config, or create the default one at:", "  " ++ defaultPath]
  | tile (.noSubdomains _) =>
    ["", "Add the subdomains to the [overlay] section, e.g.:", "  subdomains = a,b,c"]
  | tile (.noMatrixLabel _ _) =>
    ["", "tile_matrix_labels needs one entry per level up to the requested one,",
      "or remove it to use numeric tile matrix identifiers."]
  | _ => []

def lines (defaultPath : String) (f : Failure) : List String :=
  ("Error: " ++ f.message) :: f.hint defaultPath

end Failure

end RasterOverlay.Command
