import RasterOverlay.Ini.Document
import RasterOverlay.Ini.Fragment

/-!
Reading a document. It is read in steps, each of which begins at a character that decides what comes
next: a comment, a header, the mark between key and value, or a key. A key waits until its mark is
found, which may be lines later. Lines that begin with a space or a tab are read like the others,
except that one without a mark is passed over instead of being a fault.
-/

namespace RasterOverlay.Ini

/-- What has been read, and the key that waits for its value. -/
structure Reading where
  document : Document
  key : List Char

/-- The line and the column of a character, both counted from one. -/
structure Position where
  line : Nat
  column : Nat
  deriving DecidableEq

/-- The position of the character that is followed by one less than `left` others. A line end
belongs to the line that it begins, as the character in front of the first column. -/
def Position.ofLeft (document : List Char) (left : Nat) : Position :=
  let seen := document.take (document.length - left + 1)
  ⟨seen.count '\n' + 1, (seen.reverse.takeWhile (· != '\n')).length + 1⟩

namespace Reader

open Fragment

def isLineEnd (c : Char) : Bool := c == '\n' || c == '\r'

def isIndent (c : Char) : Bool := c == ' ' || c == '\t'

/-- Skips blanks, but stops at the beginning of an indented line. -/
def skipBlanks : List Char → List Char
  | [] => []
  | c :: rest =>
    if !Text.isBlank c then c :: rest
    else if isLineEnd c && rest.head?.any isIndent then rest
    else skipBlanks rest

theorem length_skipBlanks (s : List Char) : (skipBlanks s).length ≤ s.length := by
  fun_induction skipBlanks s with
  | case1 => simp
  | case2 => simp
  | case3 => simp
  | case4 c rest _ _ ih => simp only [List.length_cons]; omega

/-- What follows the next line end. -/
def skipLine (s : List Char) : List Char := (s.dropWhile (· != '\n')).drop 1

theorem length_skipLine (s : List Char) : (skipLine s).length ≤ s.length := by
  have := (List.dropWhile_sublist (l := s) (· != '\n')).length_le
  simp only [skipLine, List.length_drop]
  omega

/-- Reads a value to the end of its line. Parts in quotes may hold line ends and keep the blanks in
them, and what follows such a part keeps the blanks in front of it. -/
def readValue (afterQuotes : Bool) : List Char → Except SyntaxFault (List Char × List Char)
  | [] => .ok ([], [])
  | c :: rest =>
    if c = '"' ∨ c = '\'' then
      match h : read ⟨[c], false⟩ rest with
      | .error fault => .error fault
      | .ok (text, left) =>
        have := (length_of_read h).1
        have : (left.drop 1).length < (c :: rest).length := by
          simp only [List.length_drop, List.length_cons]
          omega
        (readValue true (left.drop 1)).map fun (more, left) => (text ++ more, left)
    else
      (read ⟨['\n', '\r'], true⟩ (c :: rest)).map fun (text, left) =>
        (if afterQuotes then Text.trimEnd text else Text.trimBoth text, left)
termination_by s => s.length
decreasing_by exact this

theorem length_of_readValue {afterQuotes : Bool} {s value left : List Char}
    (h : readValue afterQuotes s = .ok (value, left)) : left.length ≤ s.length := by
  fun_induction readValue afterQuotes s generalizing value with
  | case1 => cases h; simp
  | case2 => cases h
  | case3 afterQuotes c rest _ text rest' hr h1 h2 ih =>
    cases hv : readValue true (rest'.drop 1) with
    | error fault => rw [hv] at h; cases h
    | ok p =>
      obtain ⟨more, left'⟩ := p
      rw [hv] at h
      cases h
      have := ih hv
      omega
  | case4 afterQuotes c rest _ =>
    cases hr : read ⟨['\n', '\r'], true⟩ (c :: rest) with
    | error fault => rw [hr] at h; cases h
    | ok p =>
      obtain ⟨text, left'⟩ := p
      rw [hr] at h
      cases h
      exact (length_of_read hr).1

/-- A header, from behind its opening bracket. -/
def readHeader (r : Reading) (s : List Char) : Except SyntaxFault (Reading × List Char) :=
  (read ⟨[']'], false⟩ s).map fun (name, left) =>
    ({ r with document := r.document.openSection (String.ofList (Text.trimBoth name)) },
      skipBlanks (left.drop 1))

/-- A key, up to its mark. -/
def readKey (s : List Char) : Except SyntaxFault (List Char × List Char) :=
  (read ⟨['=', ':'], false⟩ s).map fun (key, left) => (Text.trimBoth key, left)

/-- An indented line, from behind its indent. -/
def readIndented (r : Reading) (s : List Char) : Except SyntaxFault (Reading × List Char) :=
  match s with
  | '[' :: rest => readHeader r rest
  | '\n' :: rest => .ok (r, rest)
  | '\r' :: rest => .ok (r, rest)
  | _ =>
    match readKey s with
    | .ok (key, left) => .ok ({ r with key }, skipBlanks left)
    | .error fault => .ok (r, skipBlanks (s.drop (s.length - fault.left)))

/-- A value, from behind its mark. -/
def readEntry (r : Reading) (s : List Char) : Except SyntaxFault (Reading × List Char) :=
  if r.key.isEmpty then .error ⟨.missingKey, s.length + 1⟩
  else
    let value := s.dropWhile fun c => Text.isBlank c && !isLineEnd c
    (readValue false value).map fun (value, left) =>
      (⟨r.document.addEntry (String.ofList r.key) (String.ofList value), []⟩, skipBlanks left)

/-- One step, which reads at least the character `c` that it begins at. -/
def step (document : List Char) (r : Reading) (c : Char) (rest : List Char) :
    Except SyntaxFault (Reading × List Char) :=
  if c = ';' ∨ c = '#' then
    if 2 < (Position.ofLeft document (rest.length + 1)).column then
      .error ⟨.inlineComment, rest.length + 1⟩
    else .ok (r, skipBlanks (skipLine rest))
  else if c = '[' then readHeader r rest
  else if c = '=' ∨ c = ':' then readEntry r rest
  else if isIndent c then readIndented r (rest.dropWhile isIndent)
  else if isLineEnd c then .ok (r, skipBlanks rest)
  else (readKey (c :: rest)).map fun (key, left) => ({ r with key }, skipBlanks left)

theorem length_of_readHeader {r r' : Reading} {s left : List Char}
    (h : readHeader r s = .ok (r', left)) : left.length ≤ s.length := by
  unfold readHeader at h
  cases hr : read ⟨[']'], false⟩ s with
  | error fault => rw [hr] at h; cases h
  | ok p =>
    obtain ⟨name, l⟩ := p
    rw [hr] at h
    simp only [Except.map, Except.ok.injEq, Prod.mk.injEq] at h
    obtain ⟨_, rfl⟩ := h
    have := (length_of_read hr).1
    have := length_skipBlanks (l.drop 1)
    simp only [List.length_drop] at this
    omega

theorem length_of_readKey {s key left : List Char} (h : readKey s = .ok (key, left)) :
    left.length ≤ s.length ∧
      ∀ c rest, s = c :: rest → ['=', ':'].contains c = false → left.length < s.length := by
  unfold readKey at h
  cases hr : read ⟨['=', ':'], false⟩ s with
  | error fault => rw [hr] at h; cases h
  | ok p =>
    obtain ⟨text, l⟩ := p
    rw [hr] at h
    simp only [Except.map, Except.ok.injEq, Prod.mk.injEq] at h
    obtain ⟨_, rfl⟩ := h
    exact length_of_read hr

theorem length_of_readIndented {r r' : Reading} {s left : List Char}
    (h : readIndented r s = .ok (r', left)) : left.length ≤ s.length := by
  unfold readIndented at h
  split at h
  · have := length_of_readHeader h
    simp only [List.length_cons]
    omega
  · cases h; simp
  · cases h; simp
  · split at h
    · rename_i key l hk
      cases h
      have := length_skipBlanks l
      have := (length_of_readKey hk).1
      omega
    · rename_i fault _
      cases h
      have := length_skipBlanks (s.drop (s.length - fault.left))
      simp only [List.length_drop] at this
      omega

theorem length_of_readEntry {r r' : Reading} {s left : List Char}
    (h : readEntry r s = .ok (r', left)) : left.length ≤ s.length := by
  unfold readEntry at h
  split at h
  · cases h
  · have hdrop := (List.dropWhile_sublist (l := s)
      (fun c => Text.isBlank c && !isLineEnd c)).length_le
    simp only at h
    cases hv : readValue false (s.dropWhile fun c => Text.isBlank c && !isLineEnd c) with
    | error fault => rw [hv] at h; cases h
    | ok p =>
      obtain ⟨value, l⟩ := p
      rw [hv] at h
      simp only [Except.map, Except.ok.injEq, Prod.mk.injEq] at h
      obtain ⟨_, rfl⟩ := h
      have := length_of_readValue hv
      have := length_skipBlanks l
      omega

theorem length_of_step {document : List Char} {r r' : Reading} {c : Char}
    {rest left : List Char} (h : step document r c rest = .ok (r', left)) :
    left.length < (c :: rest).length := by
  unfold step at h
  simp only [List.length_cons]
  split at h
  · split at h
    · cases h
    · cases h
      have := length_skipBlanks (skipLine rest)
      have := length_skipLine rest
      omega
  split at h
  · have := length_of_readHeader h; omega
  split at h
  · have := length_of_readEntry h; omega
  split at h
  · have := length_of_readIndented h
    have := (List.dropWhile_sublist (l := rest) isIndent).length_le
    omega
  split at h
  · cases h
    have := length_skipBlanks rest
    omega
  · rename_i hmark _ _
    cases hk : readKey (c :: rest) with
    | error fault => rw [hk] at h; cases h
    | ok p =>
      obtain ⟨key, l⟩ := p
      rw [hk] at h
      simp only [Except.map, Except.ok.injEq, Prod.mk.injEq] at h
      obtain ⟨_, rfl⟩ := h
      have := length_skipBlanks l
      have := (length_of_readKey hk).2 c rest rfl (by simpa using hmark)
      simp only [List.length_cons] at this
      omega

/-- Reads on to the end of the document. -/
def readFrom (document : List Char) (r : Reading) : List Char → Except SyntaxFault Document
  | [] => .ok r.document
  | c :: rest =>
    match h : step document r c rest with
    | .error fault => .error fault
    | .ok (r, left) =>
      have := length_of_step h
      readFrom document r left
termination_by s => s.length
decreasing_by exact this

end Reader

/-- A problem and its place. -/
structure SyntaxError where
  position : Position
  problem : SyntaxProblem
  deriving DecidableEq

def SyntaxError.message (e : SyntaxError) : String :=
  Text.ofNat e.position.line ++ ":" ++ Text.ofNat e.position.column ++ " " ++ e.problem.message

/-- The document that a text holds. -/
def Document.ofText (text : String) : Except SyntaxError Document :=
  match Reader.readFrom text.toList ⟨.empty, []⟩ text.toList with
  | .ok d => .ok d
  | .error fault => .error ⟨.ofLeft text.toList fault.left, fault.problem⟩

end RasterOverlay.Ini
