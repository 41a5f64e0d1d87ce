import RasterOverlay.Text.Blank
import RasterOverlay.Tile

/-!
Subdomains share the requests of an overlay among several hosts. Neighbouring tiles take turns
through the list, and a tile has the same subdomain every time.
-/

namespace RasterOverlay

structure Subdomains where
  names : List String
  deriving DecidableEq

namespace Subdomains

def empty : Subdomains := ⟨[]⟩

def isEmpty (s : Subdomains) : Bool := s.names.isEmpty

/-- Reads either a comma-separated list or, without a comma, one subdomain for each character that
is not blank. -/
def parse (text : String) : Subdomains :=
  if text.toList.contains ',' then ⟨Text.commaList text⟩
  else ⟨(text.toList.filter (!Text.isBlank ·)).map String.singleton⟩

/-- The tile's turn among `count` places. The sum of the three coordinates fits in 64 bits. -/
def shard (count : Nat) (t : Tile) : Nat :=
  (t.level.toUInt64 + t.column.toUInt64 + t.row.toUInt64).toNat % count

def select? (s : Subdomains) (t : Tile) : Option String := s.names[shard s.names.length t]?

end Subdomains

end RasterOverlay
