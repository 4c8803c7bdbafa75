/-!
# What can be wrong with an address

An address has a scheme to begin with, a host where the scheme asks for one, and a port that is a
number. A host is a name, an IPv4 address or an IPv6 address, and each of them can be wrong.
-/

namespace RecordRelay

/-- Why a text is **no address**. -/
inductive UriFault where
  | relative
  | emptyHost
  | invalidPort
  | invalidIpv4
  | invalidIpv6
  | invalidName
  | invalidCharacter
  deriving DecidableEq, Repr

/-- The words for an address fault. -/
def UriFault.message : UriFault → String
  | relative => "relative URL without a base"
  | emptyHost => "empty host"
  | invalidPort => "invalid port number"
  | invalidIpv4 => "invalid IPv4 address"
  | invalidIpv6 => "invalid IPv6 address"
  | invalidName => "invalid international domain name"
  | invalidCharacter => "invalid domain character"

end RecordRelay
