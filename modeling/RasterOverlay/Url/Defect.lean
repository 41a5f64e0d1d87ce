/-! The reasons why a text is not an absolute URL. -/

namespace RasterOverlay

/-- Why a text is not an absolute URL. -/
inductive UrlDefect where
  | relative
  | emptyHost
  | badPort
  | badIpv4
  | badIpv6
  | badDomainName
  | badHostCharacter
  deriving DecidableEq

def UrlDefect.message : UrlDefect → String
  | relative => "relative URL without a base"
  | emptyHost => "empty host"
  | badPort => "invalid port number"
  | badIpv4 => "invalid IPv4 address"
  | badIpv6 => "invalid IPv6 address"
  | badDomainName => "invalid international domain name"
  | badHostCharacter => "invalid domain character"

end RasterOverlay
