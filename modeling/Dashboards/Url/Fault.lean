/-!
# Why a text is no URL
-/

namespace Dashboards
namespace Url

inductive Fault where
  | relative
  | emptyHost
  | badPort
  | badIpv4
  | badIpv6
  | badDomainName
  | badDomainCharacter
deriving DecidableEq

def Fault.message : Fault → String
  | .relative => "relative URL without a base"
  | .emptyHost => "empty host"
  | .badPort => "invalid port number"
  | .badIpv4 => "invalid IPv4 address"
  | .badIpv6 => "invalid IPv6 address"
  | .badDomainName => "invalid international domain name"
  | .badDomainCharacter => "invalid domain character"

end Url
end Dashboards
