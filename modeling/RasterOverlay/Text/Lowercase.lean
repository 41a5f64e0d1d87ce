import RasterOverlay.Unicode.Case

/-!
Lower case by the Unicode rules. One letter is not mapped on its own: a capital sigma has a form of
its own at the end of a word.
-/

namespace RasterOverlay.Text

open Unicode

/-- Whether the nearest character that may not be skipped is a letter with a case. -/
def meetsCased (s : List Char) : Bool :=
  (s.dropWhile (inRanges caseIgnorable)).head?.any (inRanges cased)

/-- Lower case of `rest`, where `before` is the text in front of it, last character first. -/
def lowerAfter (before : List Char) : List Char → List Char
  | [] => []
  | c :: rest =>
    let form :=
      if c = 'Σ' then [if meetsCased before && !meetsCased rest then 'ς' else 'σ']
      else (imageIn lowerForms c).getD [c]
    form ++ lowerAfter (c :: before) rest

def lowercase (s : String) : String := String.ofList (lowerAfter [] s.toList)

end RasterOverlay.Text
