import RasterOverlay.Unicode.Category

/-!
Fragments of a document: the text up to a stop, with the escapes in it replaced. Reading works on
the list of characters that are left, and a fault is placed by how many were left when it was found.
-/

namespace RasterOverlay.Ini

/-- Where a fragment ends: at one of some characters, or also at the end of the document. -/
structure Stops where
  chars : List Char
  atEnd : Bool
  deriving DecidableEq

/-- What is wrong with a document. -/
inductive SyntaxProblem where
  | inlineComment
  | missingKey
  | unclosed (stops : Stops)
  | brokenEscape (found : Option Char)
  | badCodePoint
  deriving DecidableEq

/-- A problem at the character behind which one less than `left` characters follow. -/
structure SyntaxFault where
  problem : SyntaxProblem
  left : Nat
  deriving DecidableEq

namespace Fragment

/-- A character between single quotes. -/
def quoted (c : Char) : String :=
  let form :=
    if c = '\n' then "\\n"
    else if c = '\r' then "\\r"
    else if c = '\t' then "\\t"
    else if c = '\x00' then "\\0"
    else if c = '\'' then "\\'"
    else if c = '\\' then "\\\\"
    else if !Unicode.isVisible c then
      "\\u\x7b" ++ String.ofList (Nat.toDigits 16 c.toNat) ++ "\x7d"
    else String.singleton c
  "'" ++ form ++ "'"

def optional : Option Char → String
  | some c => "Some(" ++ quoted c ++ ")"
  | none => "None"

end Fragment

namespace SyntaxProblem

def message : SyntaxProblem → String
  | inlineComment => "doesn't support inline comment"
  | missingKey => "missing key"
  | unclosed stops =>
    let members := stops.chars.map some ++ if stops.atEnd then [none] else []
    "expecting \"[" ++ ", ".intercalate (members.map Fragment.optional) ++ "]\" but found EOF."
  | brokenEscape found =>
    "expecting \"\\\\n\" but found \"" ++ Fragment.optional found ++ "\"."
  | badCodePoint => "unknown character in \\xHH form"

end SyntaxProblem

namespace Fragment

/-- The character of a code point in hexadecimal, which may have a plus sign in front. -/
def codePoint? (digits : List Char) : Option Char :=
  let run := match digits with
    | '+' :: rest => rest
    | _ => digits
  (run.mapM Text.hexDigit?).bind fun values =>
    let n := values.foldl (fun n d => 16 * n + d) 0
    if n.isValidChar then some (Char.ofNat n) else none

/-- The fault of a code point of which `missing` digits are still to be read. A backslash in place
of a digit has to end its line, and then counts as a digit that makes no code point. -/
def codePointFault (stops : Stops) : Nat → List Char → SyntaxFault
  | 0, s => ⟨.badCodePoint, s.length + 1⟩
  | _ + 1, [] => ⟨.unclosed stops, 0⟩
  | missing + 1, '\\' :: '\n' :: rest => codePointFault stops missing rest
  | _ + 1, ['\\'] => ⟨.brokenEscape none, 0⟩
  | _ + 1, '\\' :: c :: rest => ⟨.brokenEscape (some c), rest.length + 1⟩
  | missing + 1, _ :: rest => codePointFault stops missing rest

/-- The character that a letter behind a backslash stands for. -/
def escaped (c : Char) : Char :=
  if c = '0' then '\x00'
  else if c = 'a' then '\x07'
  else if c = 'b' then '\x08'
  else if c = 't' then '\t'
  else if c = 'r' then '\r'
  else if c = 'n' then '\n'
  else c

/-- Reads up to a stop, which is left. A backslash at the end of a line joins it to the next one; at
the end of the document it stands for itself. -/
def read (stops : Stops) : List Char → Except SyntaxFault (List Char × List Char)
  | [] => if stops.atEnd then .ok ([], []) else .error ⟨.unclosed stops, 0⟩
  | '\\' :: 'x' :: a :: b :: c :: d :: rest =>
    match if [a, b, c, d].contains '\\' then none else codePoint? [a, b, c, d] with
    | some point => (read stops rest).map fun (text, left) => (point :: text, left)
    | none => .error (codePointFault stops 4 (a :: b :: c :: d :: rest))
  | '\\' :: 'x' :: rest => .error (codePointFault stops 4 rest)
  | '\\' :: '\n' :: rest => read stops rest
  | '\\' :: c :: rest => (read stops rest).map fun (text, left) => (escaped c :: text, left)
  | c :: rest =>
    if stops.chars.contains c then .ok ([], c :: rest)
    else (read stops rest).map fun (text, left) => (c :: text, left)

/-- No character is read twice, and a character that is no stop is read. -/
theorem length_of_read {stops : Stops} {s text left : List Char}
    (h : read stops s = .ok (text, left)) : left.length ≤ s.length ∧
      ∀ c rest, s = c :: rest → stops.chars.contains c = false → left.length < s.length := by
  have step {α : Type} {e : Except SyntaxFault (List Char × List Char)} {f : List Char → α}
      {x : α} (he : e.map (fun p => (f p.1, p.2)) = .ok (x, left)) : ∃ t, e = .ok (t, left) := by
    cases e with
    | error => cases he
    | ok p =>
      obtain ⟨t, l⟩ := p
      cases he
      exact ⟨t, rfl⟩
  fun_induction read stops s generalizing text with
  | case1 => cases h; simp
  | case2 => cases h
  | case3 a b c d rest point hp ih =>
    obtain ⟨t, ht⟩ := step h
    have := (ih ht).1
    simp only [List.length_cons]
    exact ⟨by omega, fun _ _ _ _ => by omega⟩
  | case4 => cases h
  | case5 => cases h
  | case6 rest ih =>
    have := (ih h).1
    simp only [List.length_cons]
    exact ⟨by omega, fun _ _ _ _ => by omega⟩
  | case7 c rest _ _ _ ih =>
    obtain ⟨t, ht⟩ := step h
    have := (ih ht).1
    simp only [List.length_cons]
    exact ⟨by omega, fun _ _ _ _ => by omega⟩
  | case8 c rest _ _ _ _ hc =>
    cases h
    refine ⟨Nat.le_refl _, fun x r hx hs => ?_⟩
    cases hx
    rw [hc] at hs
    cases hs
  | case9 c rest _ _ _ _ hc ih =>
    obtain ⟨t, ht⟩ := step h
    have := (ih ht).1
    simp only [List.length_cons]
    exact ⟨by omega, fun _ _ _ _ => by omega⟩

end Fragment

end RasterOverlay.Ini
