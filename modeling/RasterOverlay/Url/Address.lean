import RasterOverlay.Text.Digits

/-!
The numeric addresses of hosts. Both kinds have several spellings and one canonical text.
-/

namespace RasterOverlay

/-- A number of 32 bits. -/
structure Ipv4 where
  value : Nat

namespace Ipv4

/-- A number of an address: decimal, octal behind a zero, hexadecimal behind `0x`. The outer option
is empty for a text that is no number, the inner one for a number beyond 32 bits. -/
def number? (s : List Char) : Option (Option Nat) :=
  let (base, digits) := match s with
    | '0' :: 'x' :: rest => (16, rest)
    | '0' :: 'X' :: rest => (16, rest)
    | '0' :: c :: rest => (8, c :: rest)
    | _ => (10, s)
  if s.isEmpty then none
  else (digits.mapM Text.hexDigit?).bind fun values =>
    if values.all (· < base) then
      let n := values.foldl (fun n d => n * base + d) 0
      some (if n < 0x100000000 then some n else none)
    else none

/-- The labels of a host, without the empty one behind a final point. -/
def labels (host : List Char) : List (List Char) :=
  let all := host.splitOn '.'
  if 1 < all.length && all.getLast? == some [] then all.dropLast else all

/-- Whether a host is to be read as an address: its last label is a number or a run of digits. -/
def isMeant (host : List Char) : Bool :=
  match (labels host).getLast? with
  | some last => (!last.isEmpty && last.all Char.isDigit) || (number? last).isSome
  | none => false

/-- At most four numbers, the last of which fills the bytes that the others leave. -/
def ofText? (host : List Char) : Option Ipv4 := do
  let numbers ← (labels host).mapM fun label => (number? label).join
  let last ← numbers.getLast?
  let bytes := numbers.dropLast
  let room := Nat.pow 256 (4 - bytes.length)
  if bytes.length < 4 && bytes.all (· < 256) && last < room then
    return ⟨bytes.foldl (fun n b => n * 256 + b) 0 * room + last⟩
  else none

def text (a : Ipv4) : String :=
  let byte (shift : Nat) : String := Text.ofNat (a.value / shift % 256)
  ".".intercalate [byte 0x1000000, byte 0x10000, byte 0x100, byte 1]

end Ipv4

/-- Eight numbers of 16 bits. -/
structure Ipv6 where
  groups : List Nat

namespace Ipv6

/-- A byte in decimal, without zeros in front. -/
def decimalByte? (s : List Char) : Option Nat :=
  (Text.digitRun? s).filter fun n => n < 256 && Text.digitsOf n == s

/-- The two groups of an end that is written with points. -/
def pointedEnd? (s : List Char) : Option (List Nat) :=
  match (s.splitOn '.').mapM decimalByte? with
  | some [a, b, c, d] => some [a * 256 + b, c * 256 + d]
  | _ => none

/-- The groups that are found, and how many of them come before the gap, if there is one. A gap
takes the room of one group at least. -/
structure Found where
  groups : List Nat
  gap : Option Nat

def Found.add (f : Found) (groups : List Nat) : Found := { f with groups := f.groups ++ groups }

/-- The address, in which zeros fill the gap. -/
def Found.address? (f : Found) : Option Ipv6 :=
  match f.gap with
  | none => if f.groups.length = 8 then some ⟨f.groups⟩ else none
  | some n =>
    let zeros := List.replicate (8 - f.groups.length) 0
    some ⟨f.groups.take n ++ zeros ++ f.groups.drop n⟩

/-- Opens the gap. -/
def Found.openGap (f : Found) : Found := ⟨f.groups ++ [0], some (f.groups.length + 1)⟩

/-- Reads on where a group or a gap is to begin. -/
def readFrom (f : Found) : List Char → Option Found
  | [] => some f
  | ':' :: rest =>
    if f.groups.length < 8 && f.gap.isNone then readFrom f.openGap rest else none
  | c :: tail =>
    let digits := ((c :: tail).take 4).takeWhile fun c => (Text.hexDigit? c).isSome
    let group := digits.foldl (fun n c => 16 * n + (Text.hexDigit? c).getD 0) 0
    match h : (c :: tail).drop digits.length with
    | [] => if f.groups.length < 8 then some (f.add [group]) else none
    | '.' :: _ =>
      if digits.isEmpty || 6 < f.groups.length then none
      else (pointedEnd? (c :: tail)).map f.add
    | ':' :: rest =>
      have : rest.length < (c :: tail).length := by
        have := congrArg List.length h
        simp only [List.length_drop, List.length_cons] at this
        simp only [List.length_cons]
        omega
      if digits.isEmpty || 8 ≤ f.groups.length || rest.isEmpty then none
      else readFrom (f.add [group]) rest
    | _ => none
termination_by s => s.length
decreasing_by
  · exact Nat.lt_succ_self rest.length
  · exact this

def ofText? (s : List Char) : Option Ipv6 :=
  match s with
  | ':' :: ':' :: rest => (readFrom (Found.openGap ⟨[], none⟩) rest).bind Found.address?
  | ':' :: _ => none
  | _ :: _ :: _ => (readFrom ⟨[], none⟩ s).bind Found.address?
  | _ => none

/-- Where the first of the longest runs of zeros begins, and its length. -/
def longestGap (groups : List Nat) : Nat × Nat :=
  (List.range groups.length).foldl (fun best start =>
    let length := ((groups.drop start).takeWhile (· == 0)).length
    if best.2 < length then (start, length) else best) (0, 0)

/-- Groups in hexadecimal, with two colons in place of the longest run of zeros. -/
def text (a : Ipv6) : String :=
  let written (groups : List Nat) : String :=
    ":".intercalate (groups.map fun n => String.ofList (Nat.toDigits 16 n))
  let (start, length) := longestGap a.groups
  if length < 2 then written a.groups
  else written (a.groups.take start) ++ "::" ++ written (a.groups.drop (start + length))

end Ipv6

end RasterOverlay
