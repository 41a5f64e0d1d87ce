import RasterOverlay.Text.Digits

/-!
Percent coding. A byte is written as a percent sign and two hexadecimal digits; which characters
have to be written so depends on the part of the URL, but controls and characters beyond ASCII
always do.
-/

namespace RasterOverlay.Percent

/-- The UTF-8 bytes of a character. -/
def bytesOf (c : Char) : List UInt8 := (String.singleton c).toUTF8.toList

/-- The bytes of a text after each percent sign and two hexadecimal digits became one byte. -/
def decode : List Char → List UInt8
  | '%' :: a :: b :: rest =>
    match Text.hexDigit? a, Text.hexDigit? b with
    | some high, some low => UInt8.ofNat (16 * high + low) :: decode rest
    | _, _ => bytesOf '%' ++ decode (a :: b :: rest)
  | c :: rest => bytesOf c ++ decode rest
  | [] => []

/-- The text that coded bytes stand for. -/
def decodeText? (s : List Char) : Option String := String.fromUTF8? ⟨(decode s).toArray⟩

def writeByte (b : UInt8) : List Char :=
  ['%', Nat.digitChar (b.toNat / 16), Nat.digitChar (b.toNat % 16)].map Char.toUpper

/-- A text in which some characters are coded, besides those that always are. -/
def encode (coded : List Char) (s : List Char) : List Char :=
  s.flatMap fun c =>
    if c.toNat < 0x20 ∨ 0x7f ≤ c.toNat ∨ coded.contains c then (bytesOf c).flatMap writeByte
    else [c]

/-- What is coded in a fragment. -/
def inFragment : List Char := [' ', '"', '<', '>', '\x60']

/-- What is coded in a path. -/
def inPath : List Char := inFragment ++ ['#', '?', '\x7b', '\x7d']

/-- What is coded in the name and the password of a user. -/
def inUserInfo : List Char := inPath ++ ['/', ':', ';', '=', '@', '[', '\\', ']', '^', '|']

/-- What is coded in a query. -/
def inQuery : List Char := [' ', '"', '#', '<', '>']

end RasterOverlay.Percent
