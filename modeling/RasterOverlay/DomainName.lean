import RasterOverlay.DomainName.Direction
import RasterOverlay.DomainName.Joining
import RasterOverlay.DomainName.Mapping
import RasterOverlay.DomainName.Punycode

/-!
Domain names in any script. A name is brought into one form, in which names that count as the same
are equal: its characters are mapped and composed, and the labels that are written in code are read.
A name is valid if all of its labels are.
-/

namespace RasterOverlay.DomainName

/-- ASCII characters that no domain name may hold. -/
def isForbidden (c : Char) : Bool :=
  c.toNat ≤ 0x20 || c.toNat == 0x7f ||
    ['#', '%', '/', ':', '<', '>', '?', '@', '[', '\\', ']', '^', '|'].contains c

/-- The characters that a name is compared by. -/
def mapped? (name : List Char) : Option (List Char) :=
  (name.mapM image?).map fun images => Unicode.composed images.flatten

def isAscii (s : List Char) : Bool := s.all (·.toNat < 0x80)

/-- The sign of a label that is written in code. -/
def codeSign : List Char := "xn--".toList

/-- Longer codes are not read. -/
def greatestCode : Nat := 2000

/-- Longer labels are not written in code. -/
def greatestLabel : Nat := 1000

/-- A label that is not in code, or what the code of a label stands for. A code has to say more than
ASCII does, and what it stands for is the form that names are compared by. -/
def decoded? (label : List Char) : Option (List Char) :=
  if label.take 4 = codeSign then
    let code := label.drop 4
    if !isAscii code || code.getLast?.all (· == '-') || greatestCode < code.length then none
    else (Punycode.decode? code).filter fun text =>
      !text.any (Text.inRanges leftOut) && mapped? text == some text
  else some label

/-- Whether a label that was read may stand in a name. -/
def isLabel (label : List Char) : Bool :=
  !label.head?.any isMark && joinersFit [] label &&
    (isAscii label || label.length ≤ greatestLabel)

/-- The form that a name is compared by, for a valid name. -/
def normalize? (name : List Char) : Option (List Char) := do
  let name ← mapped? name
  if name.any isForbidden then none
  let labels ← (name.splitOn '.').mapM decoded?
  if labels.all isLabel && labelsKeepOrder labels then
    return ['.'].intercalate labels
  else none

/-- A name in ASCII, with its other labels in code, for a valid name. -/
def toAscii? (name : List Char) : Option (List Char) :=
  (normalize? name).map fun name =>
    ['.'].intercalate ((name.splitOn '.').map fun label =>
      if isAscii label then label else codeSign ++ Punycode.encode label)

end RasterOverlay.DomainName
