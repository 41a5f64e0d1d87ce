import RasterOverlay.Unicode.CompositionTable

/-!
Canonical composition. Characters are taken apart, the marks behind each base are put in the order
of their classes, and then as many of them as can are put together with their base again. A mark
composes only if no mark of its own class or a higher one stands between it and the base.
-/

namespace RasterOverlay.Unicode

/-- The class that puts a mark in order; a base has the class zero. -/
def combiningClass (c : Char) : Nat :=
  ((combiningClasses.find? fun (_, marks) => Text.inRanges marks c).map Prod.fst).getD 0

namespace Hangul

def firstSyllable : Nat := 0xac00

def firstLead : Nat := 0x1100

def firstVowel : Nat := 0x1161

/-- One less than the first final consonant, so that a distance of zero means that there is none. -/
def beforeFinals : Nat := 0x11a7

def leads : Nat := 19

def vowels : Nat := 21

def finals : Nat := 28

/-- The parts of a syllable. -/
def parts? (c : Char) : Option (List Char) :=
  let index := c.toNat - firstSyllable
  if c.toNat < firstSyllable ∨ leads * vowels * finals ≤ index then none
  else
    let lead := Char.ofNat (firstLead + index / (vowels * finals))
    let vowel := Char.ofNat (firstVowel + index % (vowels * finals) / finals)
    let final := index % finals
    some (lead :: vowel :: if final = 0 then [] else [Char.ofNat (beforeFinals + final)])

/-- The syllable of a lead and a vowel, or of a syllable without a final consonant and one. -/
def compose? (a b : Char) : Option Char :=
  let lead := a.toNat - firstLead
  let vowel := b.toNat - firstVowel
  let final := b.toNat - beforeFinals
  let index := a.toNat - firstSyllable
  if firstLead ≤ a.toNat ∧ lead < leads ∧ firstVowel ≤ b.toNat ∧ vowel < vowels then
    some (Char.ofNat (firstSyllable + (lead * vowels + vowel) * finals))
  else if firstSyllable ≤ a.toNat ∧ index < leads * vowels * finals ∧ index % finals = 0 ∧
      beforeFinals < b.toNat ∧ final < finals then
    some (Char.ofNat (a.toNat + final))
  else none

end Hangul

def decompose (c : Char) : List Char :=
  ((Hangul.parts? c).orElse fun _ => imageIn compositions c).getD [c]

/-- The character that two others make. -/
def compose? (a b : Char) : Option Char :=
  match Hangul.compose? a b with
  | some c => some c
  | none =>
    let parts := (decompose a ++ [b]).map Char.toNat
    (compositions.findSome? fun r =>
      match r.image, parts with
      | head :: tail, p :: ps =>
        if tail == ps ∧ head ≤ p ∧ (p - head) % r.stride = 0 ∧ r.first + (p - head) ≤ r.last then
          some (r.first + (p - head))
        else none
      | _, _ => none).map Char.ofNat

/-- A character with its class. -/
abbrev Classed := Char × Nat

/-- Puts a character in front of others, but a mark behind those of lower classes. -/
def insertMark (c : Classed) : List Classed → List Classed
  | [] => [c]
  | d :: rest => if 0 < d.2 ∧ d.2 < c.2 then d :: insertMark c rest else c :: d :: rest

/-- The characters with the marks behind each base in the order of their classes. -/
def inOrder (s : List Classed) : List Classed := s.foldr insertMark []

/-- Composes what it can with `base`; `kept` are the marks between that it could not, the last of
them first. -/
def composeWith (base : Char) (kept : List Classed) : List Classed → List Char
  | [] => base :: kept.reverse.map Prod.fst
  | (c, k) :: rest =>
    let composed := if kept.head?.any (k ≤ ·.2) then none else compose? base c
    match composed with
    | some base => composeWith base kept rest
    | none =>
      if k = 0 then base :: kept.reverse.map Prod.fst ++ composeWith c [] rest
      else composeWith base ((c, k) :: kept) rest

/-- The composed form of a text. -/
def composed (s : List Char) : List Char :=
  let ordered := inOrder ((s.flatMap decompose).map fun c => (c, combiningClass c))
  let marks := (ordered.takeWhile fun c => c.2 != 0).map Prod.fst
  match ordered.dropWhile fun c => c.2 != 0 with
  | [] => marks
  | base :: rest => marks ++ composeWith base.1 [] rest

end RasterOverlay.Unicode
