import RasterOverlay.Number.Binary64
import RasterOverlay.Text.Digits

/-!
Fixed notation: a given number of decimals and never an exponent. The exact value is rounded, a half
to the even neighbour.
-/

namespace RasterOverlay

/-- How a fixed notation writes what is not an ordinary number. -/
structure FixedNotation where
  decimals : Nat
  /-- Whether a negative number keeps its sign when all its digits are zero. -/
  signedZero : Bool
  notNumber : String

namespace FixedNotation

/-- The whole number nearest to a quotient, of two the even one. -/
def roundQuotient (num den : Nat) : Nat :=
  let low := num / den
  let rest := 2 * (num % den)
  if rest < den then low
  else if den < rest then low + 1
  else low + low % 2

/-- A count of units of the last decimal, with the point put in. -/
def pointed (decimals units : Nat) : String :=
  let fraction := Text.digitsOf (units % Nat.pow 10 decimals)
  Text.ofNat (units / Nat.pow 10 decimals) ++
    if decimals = 0 then ""
    else "." ++ String.ofList (List.replicate (decimals - fraction.length) '0' ++ fraction)

def write (layout : FixedNotation) (x : Float) : String :=
  match Binary64.ofFloat x with
  | .nan => layout.notNumber
  | .infinite negative => if negative then "-inf" else "inf"
  | .finite negative significand exponent =>
    let (num, den) := Binary64.ratio significand exponent layout.decimals
    let units := roundQuotient num den
    let sign := if negative && (layout.signedZero || units != 0) then "-" else ""
    sign ++ pointed layout.decimals units

end FixedNotation

end RasterOverlay
