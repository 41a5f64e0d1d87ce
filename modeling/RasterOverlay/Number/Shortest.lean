import RasterOverlay.Number.Binary64
import RasterOverlay.Text.Digits

/-!
Shortest notation: the fewest decimal digits that read back as the same double, and of those the
nearest to it. A double stands for an interval of reals, those that round to it; the digits are
found on the coarsest decimal grid that has a point in this interval.
-/

namespace RasterOverlay

/-- A positive decimal number `digits · 10 ^ exponent`. -/
structure Decimal where
  digits : Nat
  exponent : Int
  deriving DecidableEq

/-- How a shortest notation lays its digits out. -/
structure ShortestNotation where
  /-- The places of the first digit that are written without an exponent; all of them if absent. -/
  plainPlaces : Option (Int × Int)
  /-- Whether a whole number ends in `.0`. -/
  wholePoint : Bool
  /-- Whether a value halfway between two candidates goes up, or else to the even digit. -/
  halfUp : Bool

namespace Decimal

/-- Whether `digits · 10 ^ place` rounds to `significand · 2 ^ exponent`. The interval reaches half
the distance to each neighbour, and its ends belong to it if the significand is even. -/
def readsBack (significand : Nat) (exponent : Int) (digits : Nat) (place : Int) : Bool :=
  let lowGap := if significand = 0x10000000000000 ∧ -1074 < exponent then 1 else 2
  let (value, unit) := Binary64.ratio 1 (exponent - 2) (-place)
  let low := (4 * significand - lowGap) * value
  let high := (4 * significand + 2) * value
  let point := digits * unit
  if significand % 2 = 0 then low ≤ point && point ≤ high else low < point && point < high

/-- The nearest point of the grid `10 ^ place` in the interval of the value, if it has one. -/
def onGrid? (halfUp : Bool) (significand : Nat) (exponent place : Int) : Option Decimal :=
  let (num, den) := Binary64.ratio significand exponent (-place)
  let below := num / den
  let rest := 2 * (num % den)
  let upFirst := den < rest || (den == rest && (halfUp || below % 2 == 1))
  let candidates := if upFirst then [below + 1, below] else [below, below + 1]
  (candidates.find? fun d => d != 0 && readsBack significand exponent d place).map (⟨·, place⟩)

/-- The place of the first digit, found on a multiple of the value with more than 10 ^ 70 units. -/
def firstPlace (significand : Nat) (exponent : Int) : Int :=
  let (num, den) := Binary64.ratio significand exponent 400
  ((Text.digitsOf (num / den)).length : Int) - 401

/-- The shortest decimal of `significand · 2 ^ exponent`, the significand not zero. Seventeen
digits tell any two doubles apart. -/
def shortest (halfUp : Bool) (significand : Nat) (exponent : Int) : Decimal :=
  let first := firstPlace significand exponent
  let places := (List.range 18).map fun (i : Nat) => first + 1 - (i : Int)
  (places.findSome? (onGrid? halfUp significand exponent)).getD ⟨significand, 0⟩

/-- The digits without the zeros at their end, and the place of the last one. -/
def stripped (d : Decimal) : List Char × Int :=
  let digits := Text.digitsOf d.digits
  let zeros := (digits.reverse.takeWhile (· == '0')).length
  (digits.take (digits.length - zeros), d.exponent + zeros)

end Decimal

namespace ShortestNotation

/-- Digits around the point, where `place` is the place of the last digit. -/
def plain (layout : ShortestNotation) (digits : List Char) (place : Int) : List Char :=
  let beforePoint := (digits.length : Int) + place
  if 0 ≤ place then
    digits ++ List.replicate place.toNat '0' ++ if layout.wholePoint then ['.', '0'] else []
  else if beforePoint ≤ 0 then
    '0' :: '.' :: List.replicate (-beforePoint).toNat '0' ++ digits
  else digits.take beforePoint.toNat ++ '.' :: digits.drop beforePoint.toNat

/-- One digit before the point, and the place of that digit as an exponent. -/
def scientific (digits : List Char) (place : Int) : List Char :=
  let first := (digits.length : Int) + place - 1
  let fraction := if digits.length ≤ 1 then [] else '.' :: digits.drop 1
  let sign := if first < 0 then '-' else '+'
  digits.take 1 ++ fraction ++ 'e' :: sign :: Text.digitsOf first.natAbs

def writeDigits (layout : ShortestNotation) (digits : List Char) (place : Int) : List Char :=
  let first := (digits.length : Int) + place - 1
  match layout.plainPlaces with
  | some (least, greatest) =>
    if least ≤ first ∧ first ≤ greatest then layout.plain digits place
    else scientific digits place
  | none => layout.plain digits place

def write (layout : ShortestNotation) (x : Float) : String :=
  match Binary64.ofFloat x with
  | .nan => "NaN"
  | .infinite negative => if negative then "-inf" else "inf"
  | .finite negative significand exponent =>
    let (digits, place) :=
      if significand = 0 then (['0'], 0)
      else (Decimal.shortest layout.halfUp significand exponent).stripped
    (if negative then "-" else "") ++ String.ofList (layout.writeDigits digits place)

end ShortestNotation

end RasterOverlay
