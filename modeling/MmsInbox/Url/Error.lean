namespace MmsInbox

/-!
# Address errors

Why a text is no address.
-/

/-- Why a text is no address. -/
inductive UrlError where
  | relativeWithoutBase
  | emptyHost
  | invalidPort
  | invalidIpv4
  | invalidIpv6
  /-- The host of a special scheme is no domain name. -/
  | invalidDomainName
  /-- The host of another scheme holds a character that no host may hold. -/
  | invalidDomainCharacter
  deriving Repr, DecidableEq

namespace UrlError

/-- The error as it is reported. -/
def message : UrlError → String
  | .relativeWithoutBase => "relative URL without a base"
  | .emptyHost => "empty host"
  | .invalidPort => "invalid port number"
  | .invalidIpv4 => "invalid IPv4 address"
  | .invalidIpv6 => "invalid IPv6 address"
  | .invalidDomainName => "invalid international domain name"
  | .invalidDomainCharacter => "invalid domain character"

end UrlError

end MmsInbox
