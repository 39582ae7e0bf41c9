import Prejoin.Text.Basic

set_option autoImplicit false

namespace Prejoin.Url

inductive UrlError where
  | noScheme
  | emptyHost
  | invalidDomain
  | invalidHostCharacter
  | invalidIpv4
  | invalidIpv6
  | invalidPortNumber
deriving DecidableEq, Repr

def UrlError.message : UrlError → Text
  | .noScheme => "relative URL without a base".toList
  | .emptyHost => "empty host".toList
  | .invalidDomain => "invalid international domain name".toList
  | .invalidHostCharacter => "invalid domain character".toList
  | .invalidIpv4 => "invalid IPv4 address".toList
  | .invalidIpv6 => "invalid IPv6 address".toList
  | .invalidPortNumber => "invalid port number".toList

end Prejoin.Url
