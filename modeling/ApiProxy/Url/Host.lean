import ApiProxy.Unicode.Utf8
import ApiProxy.Url.Address
import ApiProxy.Url.Domain.Name
import ApiProxy.Failure

/-! Hosts. In the schemes that name servers a host is an address or a domain name, and a name that ends in a
number has to be an IPv4 address; in all others it is an IPv6 address or any text. -/

namespace ApiProxy.Url

inductive Host where
  | name (text : String)
  | ipv4 (address : Nat)
  | ipv6 (pieces : List Nat)
deriving DecidableEq, Repr

namespace Host

def text : Host → String
  | name text => text
  | ipv4 address => ipv4Text address
  | ipv6 pieces => "[" ++ ipv6Text pieces ++ "]"

def isEmpty (host : Host) : Bool := host = .name ""

/-- An address in brackets, whose first one has been read. -/
def ofBracketed (text : List Char) : Except Failure Host :=
  match text.reverse with
  | ']' :: inner =>
    match ipv6? inner.reverse with
    | some pieces => .ok (.ipv6 pieces)
    | none => .error .invalidIpv6
  | _ => .error .invalidIpv6

def ofDomain (text : List Char) : Except Failure Host :=
  match (Unicode.decode? (percentDecode text)).bind Domain.toAscii? with
  | none => .error .invalidDomainName
  | some [] => .error .emptyHost
  | some domain =>
    if endsInNumber domain then
      match ipv4? domain with
      | some address => .ok (.ipv4 address)
      | none => .error .invalidIpv4
    else .ok (.name (String.ofList domain))

def ofText (text : List Char) : Except Failure Host :=
  match text with
  | '[' :: rest => ofBracketed rest
  | _ => ofDomain text

def isForbidden (c : Char) : Bool :=
  c ∈ ['\x00', '\t', '\n', '\r', ' ', '#', '/', ':', '<', '>', '?', '@', '[', '\\', ']', '^', '|']

/-- The host of a URL that need not name a server. -/
def ofPlainText (text : List Char) : Except Failure Host :=
  match text with
  | '[' :: rest => ofBracketed rest
  | _ =>
    if text.any isForbidden then .error .invalidHostCharacter
    else .ok (.name (String.ofList (percentEncode isUnprintable text)))

end Host

end ApiProxy.Url
