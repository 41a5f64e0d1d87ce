import RasterOverlay.Text.Digits

/-!
Zero padding of the numbers in a request. Each placeholder may have a pad template, of which only
the length in bytes counts. The entries are kept in the order of their keys, so two paddings with
the same entries are equal however they came about.
-/

namespace RasterOverlay

structure Padding where
  entries : List (String × String)
  deriving DecidableEq

namespace Padding

def empty : Padding := ⟨[]⟩

def isEmpty (p : Padding) : Bool := p.entries.isEmpty

/-- Puts an entry in its place, or another template in place of the one that the key has. -/
def insertEntry (key template : String) : List (String × String) → List (String × String)
  | [] => [(key, template)]
  | (k, t) :: rest =>
    if key = k then (key, template) :: rest
    else if key < k then (key, template) :: (k, t) :: rest
    else (k, t) :: insertEntry key template rest

def insert (p : Padding) (key template : String) : Padding :=
  ⟨insertEntry key template p.entries⟩

/-- The last template given for a key counts. -/
def ofList (entries : List (String × String)) : Padding :=
  entries.foldl (fun p (key, template) => p.insert key template) empty

def template? (p : Padding) (key : String) : Option String := p.entries.lookup key

/-- The number with zeros in front, as many as the key's template is longer than the digits. -/
def pad (p : Padding) (key : String) (n : UInt64) : String :=
  let digits := Text.digitsOf n.toNat
  let width := match p.template? key with
    | some template => template.utf8ByteSize
    | none => 0
  String.ofList (List.replicate (width - digits.length) '0' ++ digits)

end Padding

end RasterOverlay
