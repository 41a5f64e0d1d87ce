import RasterOverlay.DomainName
import RasterOverlay.Url.Address
import RasterOverlay.Url.Defect
import RasterOverlay.Url.Percent

/-!
The host of an absolute URL. A host in brackets is an IPv6 address; any other host of a web scheme
is a domain name, and one that ends in a number is an IPv4 address. The hosts of other schemes have
no structure.
-/

namespace RasterOverlay

inductive Host where
  | name (text : String)
  | ipv4 (address : Ipv4)
  | ipv6 (address : Ipv6)

namespace Host

def text : Host → String
  | name text => text
  | ipv4 address => address.text
  | ipv6 address => "[" ++ address.text ++ "]"

/-- Characters that no host may hold. -/
def isForbidden (c : Char) : Bool :=
  ['\x00', '\t', '\n', '\r', ' ', '#', '/', ':', '<', '>', '?', '@', '[', '\\', ']', '^',
    '|'].contains c

/-- A host that begins with a bracket, from behind it. -/
def ofBracketed (inner : List Char) : Except UrlDefect Host :=
  match inner.getLast?, Ipv6.ofText? inner.dropLast with
  | some ']', some address => .ok (.ipv6 address)
  | _, _ => .error .badIpv6

/-- The host of a web scheme or of a file. -/
def ofDomain : List Char → Except UrlDefect Host
  | '[' :: inner => ofBracketed inner
  | host =>
    match (Percent.decodeText? host).bind fun text => DomainName.toAscii? text.toList with
    | none => .error .badDomainName
    | some domain =>
      if domain.isEmpty then .error .emptyHost
      else if Ipv4.isMeant domain then
        match Ipv4.ofText? domain with
        | some address => .ok (.ipv4 address)
        | none => .error .badIpv4
      else .ok (.name (String.ofList domain))

/-- The host of any other scheme. -/
def ofOpaque : List Char → Except UrlDefect Host
  | '[' :: inner => ofBracketed inner
  | host =>
    if host.any isForbidden then .error .badHostCharacter
    else .ok (.name (String.ofList (Percent.encode [] host)))

end Host

end RasterOverlay
