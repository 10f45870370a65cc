import Dashboards.Url.Address
import Dashboards.Url.Fault
import Dashboards.Url.Idna
import Dashboards.Url.Percent

/-!
# Hosts

A host is a domain name or a numeric address. `Host.read` gives its final text; other schemes than
those of the web only have their hosts checked, by `Host.checkOpaque`.
-/

namespace Dashboards
namespace Url
namespace Host

/-- An address in brackets. -/
def readBrackets (cs : List Char) : Except Fault String :=
  match cs.reverse with
  | ']' :: r =>
    match ipv6? (r.reverse.drop 1) with
    | some groups => .ok ("[" ++ ipv6Text groups ++ "]")
    | none => .error .badIpv6
  | _ => .error .badIpv6

def readDomain (cs : List Char) : Except Fault String :=
  let decoded := Text.fromUtf8? (percentDecode (cs.flatMap String.utf8EncodeChar))
  match decoded.bind Idna.toAscii? with
  | none => .error .badDomainName
  | some domain =>
    if domain.isEmpty then .error .emptyHost
    else if looksNumeric domain then
      match ipv4? domain with
      | some n => .ok (ipv4Text n)
      | none => .error .badIpv4
    else .ok (String.ofList domain)

/-- The text of a host; it is not empty. -/
def read (cs : List Char) : Except Fault String :=
  match cs with
  | '[' :: _ => readBrackets cs
  | _ => readDomain cs

def isForbiddenOpaque (c : Char) : Bool :=
  c = '\x00' || c = '\t' || c = '\n' || c = '\r' || c = ' ' || "#/:<>?@[\\]^|".toList.contains c

/-- A host of a scheme that has no rules of its own. -/
def checkOpaque (cs : List Char) : Except Fault Unit :=
  match cs with
  | '[' :: _ => (readBrackets cs).map fun _ => ()
  | _ => if cs.any isForbiddenOpaque then .error .badDomainCharacter else .ok ()

end Host
end Url
end Dashboards
