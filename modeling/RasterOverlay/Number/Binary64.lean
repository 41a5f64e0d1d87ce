/-!
A double is taken apart into a whole significand and a power of two, so that its decimal texts are
found in exact arithmetic on natural numbers.
-/

namespace RasterOverlay

/-- The value of a double; `finite` stands for `±significand · 2 ^ exponent`. -/
inductive Binary64 where
  | nan
  | infinite (negative : Bool)
  | finite (negative : Bool) (significand : Nat) (exponent : Int)
  deriving DecidableEq

namespace Binary64

def ofFloat (x : Float) : Binary64 :=
  let bits := x.toBits.toNat
  let negative := decide (0x8000000000000000 ≤ bits)
  let field : Nat := bits / 0x10000000000000 % 0x800
  let fraction := bits % 0x10000000000000
  if field = 2047 then
    if fraction = 0 then infinite negative else nan
  else if field = 0 then finite negative fraction (-1074)
  else finite negative (0x10000000000000 + fraction) ((field : Int) - 1075)

/-- `significand · 2 ^ exponent · 10 ^ shift` as a quotient of whole numbers. -/
def ratio (significand : Nat) (exponent shift : Int) : Nat × Nat :=
  (significand * Nat.pow 2 exponent.toNat * Nat.pow 10 shift.toNat,
    Nat.pow 2 (-exponent).toNat * Nat.pow 10 (-shift).toNat)

end Binary64

end RasterOverlay
