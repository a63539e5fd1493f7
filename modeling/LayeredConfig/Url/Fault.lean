/-! Why a text is no address of a resource. -/
namespace LayeredConfig.Url

/-- What is wrong with the text of an address. -/
inductive Fault where
  | noScheme
  | emptyHost
  | badPort
  | badIpv4
  | badIpv6
  | badHostChar
  | badDomain
deriving DecidableEq, Repr

def Fault.message : Fault → String
  | .noScheme => "relative URL without a base"
  | .emptyHost => "empty host"
  | .badPort => "invalid port number"
  | .badIpv4 => "invalid IPv4 address"
  | .badIpv6 => "invalid IPv6 address"
  | .badHostChar => "invalid domain character"
  | .badDomain => "invalid international domain name"

end LayeredConfig.Url
