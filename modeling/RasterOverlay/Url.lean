import RasterOverlay.Url.Host
import RasterOverlay.Url.Path

/-!
Absolute URLs. A text is cut into scheme, authority, path, query and fragment. Only the authority
can be at fault; a path, query or fragment may hold anything, and what may not stand there as it is
gets coded.
-/

namespace RasterOverlay

/-- What is between the two slashes and the path. -/
structure Authority where
  user : String
  password : String
  /-- Some schemes allow an authority without a host. -/
  host : Option Host
  port : Option Nat

structure Url where
  scheme : String
  authority : Option Authority
  path : String
  query : Option String
  fragment : Option String

/-- How the text behind a scheme is read. -/
inductive SchemeKind where
  | file
  | web
  | other

namespace SchemeKind

def ofScheme (scheme : String) : SchemeKind :=
  if scheme = "file" then file
  else if ["http", "https", "ftp", "ws", "wss"].contains scheme then web
  else other

/-- A backslash counts as a slash, except in schemes without rules of their own. -/
def isSlash (kind : SchemeKind) (c : Char) : Bool :=
  match kind with
  | other => c == '/'
  | _ => UrlPath.isSlash c

def endsAuthority (kind : SchemeKind) (c : Char) : Bool := kind.isSlash c || c == '?' || c == '#'

end SchemeKind

namespace Authority

/-- The port that a scheme has if none is given. -/
def defaultPort? (scheme : String) : Option Nat :=
  [("http", 80), ("https", 443), ("ws", 80), ("wss", 443), ("ftp", 21)].lookup scheme

/-- What comes before the last at sign, if there is one, and what comes after it. -/
def splitUserInfo (authority : List Char) : Option (List Char) × List Char :=
  let host := (authority.reverse.takeWhile (· != '@')).reverse
  if host.length = authority.length then (none, host)
  else (some (authority.take (authority.length - host.length - 1)), host)

/-- The text up to the first colon outside brackets. -/
def hostText (inBrackets : Bool) : List Char → List Char
  | [] => []
  | c :: rest =>
    if c = ':' ∧ !inBrackets then []
    else c :: hostText (c == '[' || (inBrackets && c != ']')) rest

/-- Digits that stay below 65536; none of them, or the port of the scheme, means no port. -/
def readPort (scheme : String) (digits : List Char) : Except UrlDefect (Option Nat) :=
  let port := Nat.ofDigitChars 10 digits 0
  if !digits.all Char.isDigit || 0x10000 ≤ port then .error .badPort
  else .ok (if digits.isEmpty || defaultPort? scheme == some port then none else some port)

/-- A part of the user information, coded. -/
def userText (s : List Char) : String := String.ofList (Percent.encode Percent.inUserInfo s)

/-- Reads user information, host and port, where `closed` says whether anything follows them. A
backslash ends a port, and what is left from there on is given back. -/
def read (scheme : String) (text : List Char) (closed : Bool) :
    Except UrlDefect (Authority × List Char) := do
  let kind := SchemeKind.ofScheme scheme
  let (info, hostAndPort) := splitUserInfo text
  if info == some [] && hostAndPort.isEmpty && closed then throw .emptyHost
  let user := (info.getD []).takeWhile (· != ':')
  let password := ((info.getD []).drop user.length).drop 1
  let host := hostText false hostAndPort
  let found ← match kind with
    | .other => if host.isEmpty then pure none else some <$> Host.ofOpaque host
    | _ => if host.isEmpty then throw .emptyHost else some <$> Host.ofDomain host
  let (digits, left) := ((hostAndPort.drop host.length).drop 1).span (· != '\\')
  if host.isEmpty && host.length < hostAndPort.length then throw .emptyHost
  let port ← readPort scheme digits
  if host.isEmpty && !(user.isEmpty && password.isEmpty) then throw .emptyHost
  return (⟨userText user, userText password, found, port⟩, left)

/-- The host of a file; the name of this machine counts as none. -/
def ofFileHost (host : List Char) : Except UrlDefect Authority := do
  if host.isEmpty then return ⟨"", "", none, none⟩
  match ← Host.ofDomain host with
  | .name "localhost" => return ⟨"", "", none, none⟩
  | host => return ⟨"", "", some host, none⟩

def text (a : Authority) : String :=
  let password := if a.password.isEmpty then "" else ":" ++ a.password
  let info := a.user ++ password
  (if info.isEmpty then "" else info ++ "@") ++ (a.host.elim "" Host.text) ++
    a.port.elim "" (":" ++ Text.ofNat ·)

end Authority

namespace Url

/-- Drops the controls and spaces around a URL, and the tabs and line ends within it. -/
def cleaned (s : List Char) : List Char :=
  let isEdge (c : Char) : Bool := c.toNat ≤ 0x20
  let inner := ((s.dropWhile isEdge).reverse.dropWhile isEdge).reverse
  inner.filter fun c => c != '\t' && c != '\n' && c != '\r'

/-- A letter, then letters, digits and three marks up to the colon. -/
def scheme? (s : List Char) : Option (String × List Char) :=
  let name := s.takeWhile fun c => c.isAlphanum || c == '+' || c == '-' || c == '.'
  match name, s.drop name.length with
  | first :: _, ':' :: rest =>
    if first.isAlpha then some (String.ofList (name.map Char.toLower), rest) else none
  | _, _ => none

/-- The text in front of a mark, and what is behind it if the mark is there. -/
def cutAt (mark : Char) (s : List Char) : List Char × Option (List Char) :=
  let before := s.takeWhile (· != mark)
  (before, if s.contains mark then some (s.drop (before.length + 1)) else none)

/-- The URL with this path, which is followed by a query and a fragment. -/
def assemble (scheme : String) (authority : Option Authority)
    (pathOf : List Char → List Char) (rest : List Char) : Url :=
  let (rest, fragment) := cutAt '#' rest
  let (path, query) := cutAt '?' rest
  let inQuery := match SchemeKind.ofScheme scheme with
    | .other => Percent.inQuery
    | _ => '\'' :: Percent.inQuery
  { scheme := scheme
    authority := authority
    path := String.ofList (pathOf path)
    query := query.map fun s => String.ofList (Percent.encode inQuery s)
    fragment := fragment.map fun s => String.ofList (Percent.encode Percent.inFragment s) }

/-- The path behind an authority or a slash. -/
def pathFrom (kind : SchemeKind) (s : List Char) : List Char :=
  match kind, s with
  | .other, [] => []
  | _, s => UrlPath.ofText kind.isSlash (UrlPath.behindSlash kind.isSlash s)

/-- Reads the text behind the two slashes. -/
def readBehindSlashes (scheme : String) (s : List Char) : Except UrlDefect Url := do
  let kind := SchemeKind.ofScheme scheme
  let text := s.takeWhile (!kind.endsAuthority ·)
  let rest := s.drop text.length
  let (authority, left) ← Authority.read scheme text (!rest.isEmpty)
  return assemble scheme (some authority) (pathFrom kind) (left ++ rest)

/-- Reads the text behind the scheme of a file. A host does not count if the path names a drive. A
drive behind an empty host is left as it is. -/
def readFile (s : List Char) : Except UrlDefect Url :=
  let ends := SchemeKind.endsAuthority .file
  let nowhere : Authority := ⟨"", "", none, none⟩
  match s with
  | a :: b :: rest =>
    let host := rest.takeWhile (!ends ·)
    if !(UrlPath.isSlash a && UrlPath.isSlash b) then
      .ok (assemble "file" (some nowhere) (UrlPath.ofFile true) s)
    else if UrlPath.isDrive host then
      .ok (assemble "file" (some nowhere) (UrlPath.ofFile true) rest)
    else do
      let authority ← Authority.ofFileHost host
      let rest := rest.drop host.length
      let hasDrive := authority.host.isSome &&
        UrlPath.beginsWithDrive (rest.takeWhile fun c => c != '?' && c != '#')
      return assemble "file" (some (if hasDrive then nowhere else authority))
        (UrlPath.ofFile authority.host.isSome) rest
  | _ => .ok (assemble "file" (some nowhere) (UrlPath.ofFile true) s)

/-- The absolute URL that a text stands for. -/
def ofText (text : String) : Except UrlDefect Url :=
  match scheme? (cleaned text.toList) with
  | none => .error .relative
  | some (scheme, rest) =>
    match SchemeKind.ofScheme scheme, rest with
    | .file, _ => readFile rest
    | .web, _ => readBehindSlashes scheme (rest.dropWhile UrlPath.isSlash)
    | .other, '/' :: '/' :: rest => readBehindSlashes scheme rest
    | .other, '/' :: _ => .ok (assemble scheme none (pathFrom .other) rest)
    | .other, _ => .ok (assemble scheme none (Percent.encode []) rest)

def host? (u : Url) : Option Host := u.authority.bind Authority.host

/-- The URL as text. A path that begins with two slashes is kept apart from an authority. -/
def text (u : Url) : String :=
  u.scheme ++ ":" ++
    (match u.authority with
      | some a => "//" ++ a.text
      | none => if u.path.startsWith "//" then "/." else "") ++
    u.path ++ u.query.elim "" ("?" ++ ·) ++ u.fragment.elim "" ("#" ++ ·)

end Url

end RasterOverlay
