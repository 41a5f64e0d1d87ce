import RasterOverlay.Url.Percent

/-!
The path of an absolute URL. It is cut at its slashes into segments. A segment of one point names
the place where it stands and a segment of two points the one above, so neither is kept. Nothing is
above a drive.
-/

namespace RasterOverlay.UrlPath

def isSlash (c : Char) : Bool := c == '/' || c == '\\'

/-- A letter and a colon or bar, which name a drive. -/
def isDrive : List Char → Bool
  | [letter, mark] => letter.isAlpha && (mark == ':' || mark == '|')
  | _ => false

/-- A segment with its coded points read. -/
def pointsRead : List Char → List Char
  | '%' :: '2' :: 'e' :: rest => '.' :: pointsRead rest
  | '%' :: '2' :: 'E' :: rest => '.' :: pointsRead rest
  | c :: rest => c :: pointsRead rest
  | [] => []

/-- Whether a segment names a drive, or begins with a drive and a backslash. -/
def isRoot : List Char → Bool
  | letter :: mark :: '\\' :: _ => isDrive [letter, mark]
  | segment => isDrive segment

/-- The segments without the last one, but a drive stays. -/
def shortened (segments : List (List Char)) : List (List Char) :=
  if segments.getLast?.any isRoot then segments else segments.dropLast

/-- Adds the segments of a path to those above them. A drive that the path may begin with is written
with a colon. -/
def resolve (hasDrives : Bool) (above : List (List Char)) :
    List (List Char) → List (List Char)
  | [] => above
  | segment :: rest =>
    let points := pointsRead segment
    let ending : List (List Char) := if rest.isEmpty then [[]] else []
    if points = ['.', '.'] then resolve hasDrives (shortened above ++ ending) rest
    else if points = ['.'] then resolve hasDrives (above ++ ending) rest
    else if hasDrives && above.isEmpty && isDrive segment then
      resolve hasDrives (above ++ [segment.take 1 ++ [':']]) rest
    else resolve hasDrives (above ++ [Percent.encode Percent.inPath segment]) rest

/-- Segments, each behind a slash. -/
def write (segments : List (List Char)) : List Char := segments.flatMap ('/' :: ·)

/-- The path of the segments between the slashes of a text. -/
def ofText (isSeparator : Char → Bool) (s : List Char) : List Char :=
  write (resolve false [] (s.splitOnP isSeparator))

/-- A text without the slash that it may begin with. -/
def behindSlash (isSeparator : Char → Bool) (s : List Char) : List Char :=
  if s.head?.any isSeparator then s.drop 1 else s

/-- The segments of the path of a file. -/
def fileSegments (hasDrives : Bool) (s : List Char) : List (List Char) :=
  resolve hasDrives [] ((behindSlash isSlash s).splitOnP isSlash)

/-- Whether the path of a file begins with a drive. -/
def beginsWithDrive (s : List Char) : Bool := (fileSegments true s).head?.any isDrive

/-- The path of a file, which begins with one slash. -/
def ofFile (hasDrives : Bool) (s : List Char) : List Char :=
  '/' :: (write (fileSegments hasDrives s)).dropWhile (· == '/')

end RasterOverlay.UrlPath
