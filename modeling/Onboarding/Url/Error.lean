/-! # Why a text is no address

The reasons for which the text of a URL is refused, with the report of each.
-/

namespace Onboarding

/-- Why a text is no URL. -/
inductive UrlError where
  | emptyHost
  | domainEncoding
  | invalidPort
  | invalidIpv4
  | invalidIpv6
  | invalidDomainCharacter
  | relativeWithoutBase
  deriving DecidableEq, Repr

/-- The report of a text that is no URL. -/
def UrlError.message : UrlError → String
  | emptyHost => "empty host"
  | domainEncoding => "invalid international domain name"
  | invalidPort => "invalid port number"
  | invalidIpv4 => "invalid IPv4 address"
  | invalidIpv6 => "invalid IPv6 address"
  | invalidDomainCharacter => "invalid domain character"
  | relativeWithoutBase => "relative URL without a base"

end Onboarding
