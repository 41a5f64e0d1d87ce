import RasterOverlay.Number.Shortest

/-!
Reports as JSON, laid out over lines with two spaces for each level. Strings keep all characters but
the controls, the quote and the backslash.
-/

namespace RasterOverlay.Command

inductive Json where
  | null
  | boolean (b : Bool)
  | integer (n : Nat)
  | float (x : Float)
  | string (s : String)
  | array (items : List Json)
  | object (fields : List (String × Json))

namespace Json

def ofOption : Option String → Json
  | some s => string s
  | none => null

/-- Whole numbers end in `.0`, and an exponent stands where more than sixteen places before the
point or more than four zeros behind it would be needed. -/
def floatNotation : ShortestNotation :=
  { plainPlaces := some (-5, 15), wholePoint := true, halfUp := false }

def escaped (c : Char) : List Char :=
  if c = '"' then ['\\', '"']
  else if c = '\\' then ['\\', '\\']
  else if c = '\n' then ['\\', 'n']
  else if c = '\r' then ['\\', 'r']
  else if c = '\t' then ['\\', 't']
  else if c = '\x08' then ['\\', 'b']
  else if c = '\x0c' then ['\\', 'f']
  else if c.toNat < 0x20 then
    let digits := Nat.toDigits 16 c.toNat
    '\\' :: 'u' :: List.replicate (4 - digits.length) '0' ++ digits
  else [c]

def quoted (s : String) : String := "\"" ++ String.ofList (s.toList.flatMap escaped) ++ "\""

def indent (depth : Nat) : String := String.ofList (List.replicate (2 * depth) ' ')

/-- The lines of a bracketed list, each member on lines of its own. -/
def enclose (depth : Nat) (opening closing : String) (members : List (List String)) :
    List String :=
  let inner := members.zipIdx.flatMap fun (lines, i) =>
    if i + 1 < members.length then lines.dropLast ++ [lines.getLastD "" ++ ","] else lines
  if members.isEmpty then [opening ++ closing]
  else opening :: inner ++ [indent depth ++ closing]

/-- Puts a text in front of the first line. -/
def prepend (start : String) : List String → List String
  | [] => [start]
  | line :: rest => (start ++ line) :: rest

mutual

/-- The lines of a value, the first one without its indent. -/
def lines (depth : Nat) : Json → List String
  | null => ["null"]
  | boolean b => [if b then "true" else "false"]
  | integer n => [Text.ofNat n]
  | float x => [if x.isFinite then floatNotation.write x else "null"]
  | string s => [quoted s]
  | array items => enclose depth "[" "]" (itemLines (depth + 1) items)
  | object fields => enclose depth "\x7b" "\x7d" (fieldLines (depth + 1) fields)

def itemLines (depth : Nat) : List Json → List (List String)
  | [] => []
  | item :: rest => prepend (indent depth) (lines depth item) :: itemLines depth rest

def fieldLines (depth : Nat) : List (String × Json) → List (List String)
  | [] => []
  | (name, value) :: rest =>
    prepend (indent depth ++ quoted name ++ ": ") (lines depth value) :: fieldLines depth rest

end

end Json

end RasterOverlay.Command
