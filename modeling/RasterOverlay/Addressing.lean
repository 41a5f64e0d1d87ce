import RasterOverlay.Addressing.Template
import RasterOverlay.Addressing.Wmts

/-!
How the tiles of an overlay are addressed. An addressing is made from a description once and then
gives the URL of every tile, or the reason why a tile has none.
-/

namespace RasterOverlay

inductive Addressing where
  | template (a : TemplateAddressing)
  | wmts (a : Wmts.Addressing)

namespace Addressing

def ofOverlay (o : Overlay) : Except TileError Addressing := do
  o.validate
  match o.source with
  | .template => return .template (← TemplateAddressing.ofOverlay o)
  | .wmts => return .wmts (← Wmts.Addressing.ofOverlay o)

def kind : Addressing → SourceKind
  | template _ => .template
  | wmts _ => .wmts

def url (a : Addressing) (p : Placement) (t : Tile) : Except TileError String :=
  match a with
  | template a => a.url p.grid t
  | wmts a => a.tileUrl p.grid t

end Addressing

end RasterOverlay
