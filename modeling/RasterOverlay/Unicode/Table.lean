import RasterOverlay.Text.Blank
import RasterOverlay.Text.Digits

/-!
Tables of code points as text. The entries of a table stand between blanks, in hexadecimal. An entry
of a set is a code point or a range, `41-5A`. An entry of a map has an image behind it, `41-5A=61`
or `BC=31.2044.34`, and may take only every second code point of its range, `100-12E/2=101`.
-/

namespace RasterOverlay.Unicode

/-- Every `stride`-th code point from `first` to `last` has an image. The image of the first one is
given, and its first code point grows with the code point it belongs to. -/
structure Rule where
  first : Nat
  last : Nat
  stride : Nat
  image : List Nat

/-- The image of a code point that the rule speaks of. -/
def Rule.imageOf? (r : Rule) (code : Nat) : Option (List Char) :=
  if r.first ≤ code ∧ code ≤ r.last ∧ (code - r.first) % r.stride = 0 then
    match r.image with
    | [] => some []
    | head :: tail => some (Char.ofNat (head + (code - r.first)) :: tail.map Char.ofNat)
  else none

/-- The image of a character in a map. -/
def imageIn (rules : List Rule) (c : Char) : Option (List Char) :=
  rules.findSome? (·.imageOf? c.toNat)

def entries (text : String) : List (List Char) :=
  (text.toList.splitOnP fun c => c == ' ' || c == '\n').filter (!·.isEmpty)

def numberOf (digits : List Char) : Nat :=
  digits.foldl (fun n c => 16 * n + (Text.hexDigit? c).getD 0) 0

/-- A code point alone is the range that begins and ends with it. -/
def rangeOf (entry : List Char) : Nat × Nat :=
  let ends := (entry.splitOn '-').map numberOf
  (ends.headD 0, ends.getLastD 0)

def ruleOf (entry : List Char) : Rule :=
  let source := entry.takeWhile (· != '=')
  let range := rangeOf (source.takeWhile (· != '/'))
  { first := range.1
    last := range.2
    stride := if source.contains '/' then 2 else 1
    image := (((entry.drop source.length).drop 1).splitOn '.').map numberOf }

/-- The set that a text lists. -/
def rangesOf (text : String) : List (Nat × Nat) := (entries text).map rangeOf

/-- The map that a text lists. -/
def rulesOf (text : String) : List Rule := (entries text).map ruleOf

end RasterOverlay.Unicode
