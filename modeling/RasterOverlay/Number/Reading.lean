import RasterOverlay.Text.Digits

/-!
Reading a double: an optional sign and then `inf`, `infinity` or `nan` in any case, or digits with
an optional point among them and an optional exponent. The value is rounded to the nearest double,
and one that is too large becomes an infinity.
-/

namespace RasterOverlay.Number

/-- An exponent mark with a signed whole number, or nothing at all. -/
def exponent? : List Char → Option Int
  | [] => some 0
  | c :: rest => if c = 'e' ∨ c = 'E' then Text.integer? rest else none

/-- Digits with an optional point and exponent, as a whole number and a power of ten. -/
def decimal? (s : List Char) : Option (Nat × Int) :=
  let whole := s.takeWhile Char.isDigit
  let afterWhole := s.dropWhile Char.isDigit
  let afterPoint := match afterWhole with
    | '.' :: rest => rest
    | _ => []
  let fraction := afterPoint.takeWhile Char.isDigit
  let rest := match afterWhole with
    | '.' :: _ => afterPoint.dropWhile Char.isDigit
    | _ => afterWhole
  if whole.isEmpty && fraction.isEmpty then none
  else (exponent? rest).map fun e =>
    (Nat.ofDigitChars 10 (whole ++ fraction) 0, e - (fraction.length : Int))

/-- The double nearest to `digits · 10 ^ place`. Numbers far beyond the range of doubles are told
by the place of their first digit, before any power is taken. -/
def nearest (digits : Nat) (place : Int) : Float :=
  let first := ((Text.digitsOf digits).length : Int) + place
  if digits = 0 ∨ first < -330 then 0.0
  else if 310 < first then 1.0 / 0.0
  else Float.ofScientific digits (decide (place < 0)) place.natAbs

def unsigned? (s : List Char) : Option Float :=
  let word := String.ofList (s.map Char.toLower)
  if word = "inf" ∨ word = "infinity" then some (1.0 / 0.0)
  else if word = "nan" then some (0.0 / 0.0)
  else (decimal? s).map fun (digits, place) => nearest digits place

/-- The double that a text stands for. -/
def float? (s : String) : Option Float :=
  match s.toList with
  | '-' :: rest => (unsigned? rest).map (- ·)
  | '+' :: rest => unsigned? rest
  | rest => unsigned? rest

end RasterOverlay.Number
