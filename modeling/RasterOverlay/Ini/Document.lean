/-!
A document of sections. A name may head several sections and a key may stand several times in one;
a look-up finds the first of them, while the entries of a section keep all of them in order.
-/

namespace RasterOverlay.Ini

structure Section where
  name : String
  entries : List (String × String)
  deriving DecidableEq

def Section.get? (s : Section) (key : String) : Option String := s.entries.lookup key

structure Document where
  /-- The entries in front of the first section. -/
  preamble : List (String × String)
  sections : List Section
  deriving DecidableEq

namespace Document

def empty : Document := ⟨[], []⟩

def section? (d : Document) (name : String) : Option Section :=
  d.sections.find? fun s => s.name == name

def openSection (d : Document) (name : String) : Document :=
  { d with sections := d.sections ++ [⟨name, []⟩] }

/-- Adds an entry to the last section. -/
def addEntry (d : Document) (key value : String) : Document :=
  match d.sections.getLast? with
  | none => { d with preamble := d.preamble ++ [(key, value)] }
  | some last =>
    { d with sections :=
        d.sections.dropLast ++ [{ last with entries := last.entries ++ [(key, value)] }] }

end Document

end RasterOverlay.Ini
