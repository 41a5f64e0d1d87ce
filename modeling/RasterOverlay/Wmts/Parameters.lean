import RasterOverlay.Text.Blank

/-!
The parameters that a Web Map Tile Service is asked with. Each has a default that stands in for an
absent or blank value, except for the access token, which needs both a name and a value.
-/

namespace RasterOverlay.Wmts

/-- The parameters as they are written in a description of an overlay. -/
structure Options where
  layer : Option String := none
  style : Option String := none
  matrixSet : Option String := none
  format : Option String := none
  version : Option String := none
  tokenName : Option String := none
  tokenValue : Option String := none
  deriving DecidableEq

/-- The parameters that requests are made with. -/
structure Parameters where
  layer : String
  style : String
  matrixSet : String
  format : String
  version : String
  token : Option (String × String)
  deriving DecidableEq

namespace Options

def text (default : String) (value : Option String) : String :=
  (value.bind Text.filled?).getD default

def parameters (o : Options) : Parameters where
  layer := text "img" o.layer
  style := text "default" o.style
  matrixSet := text "c" o.matrixSet
  format := text "tiles" o.format
  version := text "1.0.0" o.version
  token := do
    let name ← o.tokenName.bind Text.filled?
    let value ← o.tokenValue.bind Text.filled?
    return (name, value)

end Options

end RasterOverlay.Wmts
