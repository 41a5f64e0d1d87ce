import RasterOverlay.Addressing

/-!
A loader loads the tiles of one overlay. It has no state: what a load does besides computing is to
send at most one request, and it sends none for a tile that has no URL. The sender is a parameter,
so a run of a loader is known from the answers that its requests get.
-/

namespace RasterOverlay

structure Request where
  url : String
  headers : List (String × String)
  deriving DecidableEq

structure Response where
  status : UInt16
  body : ByteArray

/-- What is known of a tile whatever its request brings. -/
structure TileOutlook where
  rectangle : Rectangle Float
  /-- Whether there is a deeper level. -/
  moreDetail : Bool

/-- The result of loading a tile: an image, or the reasons why there is none. -/
structure LoadedTile where
  image : Option ByteArray
  rectangle : Rectangle Float
  warnings : List String
  errors : List String
  credits : List String
  moreDetail : Bool

namespace LoadedTile

def loaded (image : ByteArray) (outlook : TileOutlook) : LoadedTile :=
  ⟨some image, outlook.rectangle, [], [], [], outlook.moreDetail⟩

def failed (error : TileError) (outlook : TileOutlook) : LoadedTile :=
  ⟨none, outlook.rectangle, [], [error.message], [], outlook.moreDetail⟩

def isLoaded (t : LoadedTile) : Bool := t.image.isSome

def imageSize (t : LoadedTile) : Nat := t.image.elim 0 ByteArray.size

/-- Transports without statuses report zero, which counts as success. -/
def isSuccess (status : UInt16) : Bool := status == 0 || (200 ≤ status && status < 300)

/-- The result that the answer to a request brings. -/
def ofAnswer (url : String) (answer : Except TileError Response) (outlook : TileOutlook) :
    LoadedTile :=
  match answer with
  | .error cause => failed (.noResponse url cause) outlook
  | .ok response =>
    if !isSuccess response.status then failed (.badStatus response.status url) outlook
    else if response.body.isEmpty then failed (.emptyImage url) outlook
    else loaded response.body outlook

end LoadedTile

structure TileLoader where
  name : String
  addressing : Addressing
  placement : Placement
  headers : List (String × String)
  credit : Option String
  minLevel : UInt32
  maxLevel : UInt32
  tileWidth : UInt32
  tileHeight : UInt32

namespace TileLoader

def ofOverlay (o : Overlay) : Except TileError TileLoader := do
  let addressing ← Addressing.ofOverlay o
  return {
    name := o.name
    addressing := addressing
    placement := o.placement
    headers := o.headers
    credit := o.credit
    minLevel := o.minLevel
    maxLevel := o.maxLevel
    tileWidth := o.tileWidth
    tileHeight := o.tileHeight }

def outlook (l : TileLoader) (t : Tile) : TileOutlook :=
  ⟨l.placement.grid.cell t, t.level < l.maxLevel⟩

def url (l : TileLoader) (t : Tile) : Except TileError String := do
  Level.check t
  l.addressing.url l.placement t

/-- Loads a tile. Every failure is part of the result. -/
def load {m : Type → Type} [Monad m] (send : Request → m (Except TileError Response))
    (l : TileLoader) (t : Tile) : m LoadedTile :=
  match l.url t with
  | .error cause => return .failed cause (l.outlook t)
  | .ok url => return .ofAnswer url (← send ⟨url, l.headers⟩) (l.outlook t)

end TileLoader

end RasterOverlay
