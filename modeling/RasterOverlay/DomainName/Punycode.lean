import RasterOverlay.Text.Digits

/-!
Text written in letters, digits and hyphens. The ASCII characters come first, up to the last hyphen.
Each number behind them says where the next character goes and how much greater its code point is
than the one before, the two in one number. The digits of the numbers have 36 values, and the
thresholds between them adapt to the size of the numbers already seen.
-/

namespace RasterOverlay.DomainName.Punycode

/-- Letters count from zero, decimal digits from 26. -/
def digit? (c : Char) : Option Nat :=
  if c.isDigit then some (c.toNat - '0'.toNat + 26)
  else if c.isAlpha then some (c.toLower.toNat - 'a'.toNat)
  else none

def digitOf (value : Nat) : Char :=
  if value < 26 then Char.ofNat ('a'.toNat + value) else Char.ofNat ('0'.toNat + value - 26)

/-- The least digit that is not the last of its number. -/
def threshold (bias place : Nat) : Nat := max 1 (min 26 (place - bias))

theorem threshold_pos (bias place : Nat) : 0 < threshold bias place := by
  unfold threshold
  omega

/-- Numbers and the weights of their digits stay below this bound. -/
def bound : Nat := 0x100000000

/-- Reads one number and adds it to `sum`. -/
def readNumber (bias place weight sum : Nat) : List Char → Option (Nat × List Char)
  | [] => none
  | c :: rest =>
    match digit? c with
    | none => none
    | some d =>
      let sum := sum + d * weight
      let least := threshold bias place
      if bound ≤ sum then none
      else if d < least then some (sum, rest)
      else if bound ≤ weight * (36 - least) then none
      else readNumber bias (place + 36) (weight * (36 - least)) sum rest

theorem length_of_readNumber {bias place weight sum n : Nat} {s rest : List Char}
    (h : readNumber bias place weight sum s = some (n, rest)) : rest.length < s.length := by
  fun_induction readNumber bias place weight sum s with
  | case1 => cases h
  | case2 => cases h
  | case3 => cases h
  | case4 =>
    simp only [Option.some.injEq, Prod.mk.injEq] at h
    rw [← h.2]
    exact Nat.lt_succ_self _
  | case5 => cases h
  | case6 _ _ _ c tail _ _ _ _ _ _ _ ih =>
    have := ih h
    simp only [List.length_cons]
    omega

/-- Divides by 35 until little is left, and counts the places that takes. -/
def reduce (delta places : Nat) : Nat × Nat :=
  if h : 455 < delta then reduce (delta / 35) (places + 36) else (delta, places)
termination_by delta
decreasing_by exact Nat.div_lt_self (Nat.lt_of_le_of_lt (Nat.zero_le 455) h) (by decide)

/-- The bias for the next number, when the text has got `length` characters. -/
def adapt (delta length : Nat) (isFirst : Bool) : Nat :=
  let damped := if isFirst then delta / 700 else delta / 2
  let (delta, places) := reduce (damped + damped / length) 0
  places + 36 * delta / (delta + 38)

/-- Puts a character into `text` for each number; `code` is the last code point, and `position` is
where the last character went, plus one. -/
def decodeFrom (text : List Char) (code position bias : Nat) (s : List Char) :
    Option (List Char) :=
  match h : readNumber bias 36 1 position s with
  | none => if s.isEmpty then some text else none
  | some (sum, rest) =>
    let length := text.length + 1
    let code := code + sum / length
    let index := sum % length
    have := length_of_readNumber h
    if code.isValidChar then
      decodeFrom (text.insertIdx index (Char.ofNat code)) code (index + 1)
        (adapt (sum - position) length (position == 0)) rest
    else none
termination_by s.length

/-- The text that a code stands for. -/
def decode? (code : List Char) : Option (List Char) :=
  let numbers := (code.reverse.takeWhile (· != '-')).reverse
  let ascii := code.take (code.length - numbers.length - 1)
  decodeFrom ascii 128 0 72 (if ascii.isEmpty then code else numbers)

/-- The digits of a number. -/
def writeNumber (bias place n : Nat) : List Char :=
  let least := threshold bias place
  if h : n < least then [digitOf n]
  else
    have : (n - least) / (36 - least) < n :=
      Nat.lt_of_le_of_lt (Nat.div_le_self _ _)
        (Nat.sub_lt (Nat.lt_of_lt_of_le (threshold_pos bias place) (Nat.not_lt.1 h))
          (threshold_pos bias place))
    digitOf (least + (n - least) % (36 - least)) ::
      writeNumber bias (place + 36) ((n - least) / (36 - least))
termination_by n
decreasing_by exact this

/-- What has been written, and what the next number is counted from. -/
structure Writing where
  digits : List Char
  delta : Nat
  bias : Nat
  /-- How many characters are written, in ASCII or by a number. -/
  written : Nat

/-- Writes the places of the characters with one code point, as they come in the text. -/
def Writing.place (ascii code : Nat) (w : Writing) (c : Char) : Writing :=
  if c.toNat < code then { w with delta := w.delta + 1 }
  else if c.toNat = code then
    { digits := w.digits ++ writeNumber w.bias 36 w.delta
      delta := 0
      bias := adapt w.delta (w.written + 1) (w.written == ascii)
      written := w.written + 1 }
  else w

/-- Writes all characters from the code point `least` on, where `codes` are theirs in order. -/
def encodeFrom (text : List Char) (ascii : Nat) (w : Writing) (least : Nat) : List Nat → List Char
  | [] => w.digits
  | code :: codes =>
    let start := { w with delta := w.delta + (code - least) * (w.written + 1) }
    let after := text.foldl (Writing.place ascii code) start
    encodeFrom text ascii { after with delta := after.delta + 1 } (code + 1) codes

/-- The code of a text. -/
def encode (text : List Char) : List Char :=
  let ascii := text.filter (·.toNat < 128)
  let codes := ((text.filter (128 ≤ ·.toNat)).map Char.toNat).mergeSort.eraseReps
  let start := if ascii.isEmpty then [] else ascii ++ ['-']
  encodeFrom text ascii.length ⟨start, 0, 72, ascii.length⟩ 128 codes

end RasterOverlay.DomainName.Punycode
