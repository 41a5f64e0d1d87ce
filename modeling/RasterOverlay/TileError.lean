import RasterOverlay.Tile
import RasterOverlay.Url.Defect

/-!
Why a tile could not be loaded. The first causes concern the description of the overlay or the tile
asked for and are found before any request is made; the others come from a request.
-/

namespace RasterOverlay

/-- Why a description is of no use for any tile. -/
inductive Defect where
  | noUrl (overlay : String)
  | levelsReversed (least greatest : UInt32)
  | levelTooDeep (greatest limit : UInt32)
  | emptyTiles (width height : UInt32)
  /-- Rows would be counted from the other edge twice. -/
  | rowInvertedTwice
  | baseUrl (url : String) (reason : UrlDefect)
  | stated (problem : String)
  deriving DecidableEq

namespace Defect

def message : Defect → String
  | noUrl overlay => "overlay '" ++ overlay ++ "' has no URL"
  | levelsReversed least greatest =>
    "minimum level " ++ Text.ofNat least.toNat ++ " is greater than maximum level " ++
      Text.ofNat greatest.toNat
  | levelTooDeep greatest limit =>
    "maximum level " ++ Text.ofNat greatest.toNat ++ " exceeds the supported maximum " ++
      Text.ofNat limit.toNat
  | emptyTiles width height =>
    "tile size " ++ Text.ofNat width.toNat ++ "x" ++ Text.ofNat height.toNat ++
      " must be non-zero"
  | rowInvertedTwice => "flip_y cannot be combined with a \x7breverseY\x7d placeholder"
  | baseUrl url reason => "'" ++ url ++ "' is not a valid WMTS base URL: " ++ reason.message
  | stated problem => problem

end Defect

inductive TileError where
  | noSubdomains (url : String)
  | noMatrixLabel (level available : Nat)
  | negativeLevel (level : UInt32) (bias : Int32)
  | outsideGrid (tile : Tile)
  | unusable (defect : Defect)
  | transport (reason : String)
  | noResponse (url : String) (cause : TileError)
  | badStatus (status : UInt16) (url : String)
  | emptyImage (url : String)
  deriving DecidableEq

namespace TileError

/-- Whether the cause is known before any request is made. -/
def beforeRequest : TileError → Bool
  | noSubdomains _ | noMatrixLabel _ _ | negativeLevel _ _ | outsideGrid _ | unusable _ => true
  | transport _ | noResponse _ _ | badStatus _ _ | emptyImage _ => false

def message : TileError → String
  | noSubdomains url => "URL '" ++ url ++ "' uses \x7bs\x7d but no subdomains are configured"
  | noMatrixLabel level available =>
    "No tile matrix label for level " ++ Text.ofNat level ++ " (" ++ Text.ofNat available ++
      " labels configured)"
  | negativeLevel level bias =>
    "Level " ++ Text.ofNat level.toNat ++ " with bias " ++ Text.ofInt bias.toInt ++
      " yields a negative level"
  | outsideGrid tile => "Tile " ++ tile.describe ++ " is outside the tiling scheme"
  | unusable defect => "Invalid configuration: " ++ defect.message
  | transport reason => "HTTP error: " ++ reason
  | noResponse url cause => "HTTP error: No response for " ++ url ++ ": " ++ cause.message
  | badStatus status url =>
    "Image response code " ++ Text.ofNat status.toNat ++ " for " ++ url
  | emptyImage url => "Image response for " ++ url ++ " is empty"

end TileError

end RasterOverlay
