/-!
Blank characters are those of the Unicode property White_Space. Names, keys and values are read
without the blanks around them, and a value of blanks alone counts as no value.
-/

namespace RasterOverlay.Text

/-- The property White_Space, in ranges of code points. -/
def blankRanges : List (Nat × Nat) := [
  (0x09, 0x0d), (0x20, 0x20), (0x85, 0x85), (0xa0, 0xa0), (0x1680, 0x1680), (0x2000, 0x200a),
  (0x2028, 0x2029), (0x202f, 0x202f), (0x205f, 0x205f), (0x3000, 0x3000)]

def inRanges (ranges : List (Nat × Nat)) (c : Char) : Bool :=
  ranges.any fun (first, last) => first ≤ c.toNat && c.toNat ≤ last

def isBlank (c : Char) : Bool := inRanges blankRanges c

def trimStart (s : List Char) : List Char := s.dropWhile isBlank

def trimEnd (s : List Char) : List Char := (trimStart s.reverse).reverse

def trimBoth (s : List Char) : List Char := trimEnd (trimStart s)

/-- The text without the blanks around it. -/
def trim (s : String) : String := String.ofList (trimBoth s.toList)

/-- The text without the blanks around it, unless it holds nothing else. -/
def filled? (s : String) : Option String :=
  let content := trim s
  if content.isEmpty then none else some content

/-- The pieces of a text between the occurrences of a separator, at least one. -/
def pieces (separator : Char) (s : String) : List String :=
  (s.toList.splitOn separator).map String.ofList

/-- The items of a comma-separated list, without the blank ones. -/
def commaList (s : String) : List String := (pieces ',' s).filterMap filled?

/-- Equality of texts up to the case of ASCII letters. -/
def sameLetters (s t : String) : Bool :=
  s.toList.map Char.toLower == t.toList.map Char.toLower

end RasterOverlay.Text
