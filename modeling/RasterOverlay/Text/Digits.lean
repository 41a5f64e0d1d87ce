/-!
Whole numbers as text. They are written in decimal without leading zeros; they are read as a run
of ASCII digits behind an optional sign, with no blanks and no other marks.
-/

namespace RasterOverlay.Text

def digitsOf (n : Nat) : List Char := Nat.toDigits 10 n

def ofNat (n : Nat) : String := String.ofList (digitsOf n)

def ofInt (n : Int) : String :=
  if n < 0 then String.ofList ('-' :: digitsOf n.natAbs) else ofNat n.natAbs

/-- The value of a hexadecimal digit. -/
def hexDigit? (c : Char) : Option Nat :=
  if c.isDigit then some (c.toNat - '0'.toNat)
  else if 'a' ≤ c ∧ c ≤ 'f' then some (c.toNat - 'a'.toNat + 10)
  else if 'A' ≤ c ∧ c ≤ 'F' then some (c.toNat - 'A'.toNat + 10)
  else none

/-- The value of a run of digits, which may not be empty. -/
def digitRun? (s : List Char) : Option Nat :=
  if s.isEmpty || !s.all Char.isDigit then none else some (Nat.ofDigitChars 10 s 0)

/-- A digit run behind at most one plus sign. -/
def natural? : List Char → Option Nat
  | '+' :: rest => digitRun? rest
  | s => digitRun? s

/-- A digit run behind at most one sign. -/
def integer? : List Char → Option Int
  | '-' :: rest => (digitRun? rest).map fun n => -(n : Int)
  | s => (natural? s).map fun n => (n : Int)

/-- A number of 32 bits without a sign. -/
def uint32? (s : String) : Option UInt32 :=
  (natural? s.toList).bind fun n => if n < 0x100000000 then some (UInt32.ofNat n) else none

/-- A number of 64 bits without a sign. -/
def uint64? (s : String) : Option UInt64 :=
  (natural? s.toList).bind fun n => if n < 0x10000000000000000 then some (UInt64.ofNat n) else none

/-- A signed number of 32 bits. -/
def int32? (s : String) : Option Int32 :=
  (integer? s.toList).bind fun n =>
    if -0x80000000 ≤ n ∧ n < 0x80000000 then some (Int32.ofInt n) else none

end RasterOverlay.Text
