import RasterOverlay.Unicode.Category

/-!
The characters that Unicode took in last. Names follow its latest version, while what can be shown
follows the version before; so these characters may stand in a name, though they count as unassigned
elsewhere.
-/

namespace RasterOverlay.DomainName

open Unicode

/-- Characters that may stand in a name, or give way to others there. -/
def newcomers : List (Nat × Nat) := rangesOf "
  558 58B-58C 5C8-5C9 1ADE-1ADF 1AEC-1AFF 208F 209D-209F 20C2-20C4 2E5E-2E7F A7DD-A7F0 10ED9-10EF9
  1246F 12550-1268F 16D80-16DAF 18E00-191FF 1B123-1B12F 1B168-1B16F 1CED1-1CEDF 1CEF1-1CEFF
  1D127-1D128 1D250-1D28F 1D6A6 1DB00-1DBFF 1DF1F-1DF24 1DF2B-1DFFF 1F1AE 1F6D9-1F6DB 1F7DA-1F7DF
  1FA8B-1FA8D 1FAC7 1FAC9-1FACC 1FADD-1FADE 1FAEB-1FAEE 1FAF9-1FAFF 3D000-3FC3F"

/-- Those that give way to others: letters to their lower case, and raised, lowered or slanted
letters to plain ones. -/
def newlyMapped : List Rule := rulesOf "
  558=567 209D=77 209E-209F=79 A7DD-A7E2=277 1D6A6=73.73 1DF40=1DF41 1DFCD=1DF57 1DFD0=263
  1DFF4=3C9"

/-- Marks without room among them. -/
def newMarks : List (Nat × Nat) := rangesOf "
  5C8-5C9 1ADE-1ADF 1AEC-1AFF 10EF0-10EF9"

/-- Marks that have taken room since. -/
def widenedMarks : List (Nat × Nat) := rangesOf "
  1B3A 1B3C 1B42"

/-- Whether a character is a mark in a name that takes no room of its own. -/
def isNonspacing (c : Char) : Bool :=
  Text.inRanges newMarks c || (Text.inRanges nonspacing c && !Text.inRanges widenedMarks c)

/-- Whether a character is a mark in a name. -/
def isMark (c : Char) : Bool := Text.inRanges newMarks c || Unicode.isMark c

/-- Whether a code point stands for no character in a name. -/
def isUnassigned (c : Char) : Bool := Text.inRanges unassigned c && !Text.inRanges newcomers c

end RasterOverlay.DomainName
