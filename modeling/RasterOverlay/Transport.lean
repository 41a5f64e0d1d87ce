import RasterOverlay.TileLoader
import RasterOverlay.Url

/-!
A transport without a connection. It refuses a request that cannot be written down before it looks
for a host, and reports every other request as one that found none.
-/

namespace RasterOverlay.Transport

/-- The name of a header is a word of ASCII letters, digits and some signs. -/
def isHeaderName (name : String) : Bool :=
  !name.isEmpty && name.toList.all fun c => c.isAlphanum || "!#$%&'*+-.^_`|~".toList.contains c

/-- The value of a header holds no controls, except the tab. -/
def isHeaderValue (value : String) : Bool :=
  value.toList.all fun c => (0x20 ≤ c.toNat && c.toNat != 0x7f) || c == '\t'

def isHeader (header : String × String) : Bool :=
  isHeaderName header.1 && isHeaderValue header.2

/-- Whether a request can name a host. -/
def isWritable (host : String) : Bool :=
  !host.toList.any (['"', '\x60', '\x7b', '\x7d'].contains ·)

/-- A URL of more bytes does not fit in a request. -/
def greatestSize : Nat := 65534

/-- Whether a coded part of a URL stands for text. -/
def isText (coded : String) : Bool := (Percent.decodeText? coded.toList).isSome

/-- Whether a header can name the user of a URL: there is one, or a password, and it is text. -/
def isNameable (a : Authority) : Bool :=
  isText a.user && (!a.user.isEmpty || (!a.password.isEmpty && isText a.password))

/-- The URL that a request is sent to. A user is named in a header instead, if it can be. -/
def target (u : Url) : Url :=
  match u.authority with
  | some a =>
    if isNameable a then { u with authority := some { a with user := "", password := "" } } else u
  | none => u

/-- Why a request is refused before a connection is opened, if it is. -/
def refusal? (r : Request) : Option String :=
  let problem := "builder error"
  let problemOf (u : Url) : String := problem ++ " for url (" ++ u.text ++ ")"
  match Url.ofText r.url with
  | .error _ => some problem
  | .ok u =>
    match u.host? with
    | none => some (problemOf u)
    | some host =>
      if !r.headers.all isHeader then some problem
      else if ["http", "https"].contains u.scheme && isWritable host.text &&
          (target u).text.utf8ByteSize ≤ greatestSize then none
      else some (problemOf (target u))

/-- The reason why a request fails that no connection is opened for. -/
def offline (r : Request) : String :=
  "Request failed: " ++ (refusal? r).getD ("error sending request for url (" ++ r.url ++ ")")

end RasterOverlay.Transport
