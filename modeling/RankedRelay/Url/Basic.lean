import RankedRelay.Text.Bytes

namespace RankedRelay

inductive Host where
  /-- A domain in ASCII, or the escaped host of a scheme without rules of its own. -/
  | name (text : String)
  | ipv4 (address : UInt32)
  | ipv6 (pieces : List UInt16)
deriving DecidableEq, Repr

inductive UrlPath where
  | plain (text : String)
  | segments (list : List String)
deriving DecidableEq, Repr

structure Url where
  scheme : String
  username : String
  password : String
  host : Option Host
  port : Option UInt16
  path : UrlPath
  query : Option String
  fragment : Option String
deriving DecidableEq, Repr

inductive UrlError where
  | relative
  | emptyHost
  | invalidPort
  | invalidIpv4
  | invalidIpv6
  | invalidInternationalName
  | invalidDomainCharacter
deriving DecidableEq, Repr

def UrlError.text : UrlError → String
  | relative => "relative URL without a base"
  | emptyHost => "empty host"
  | invalidPort => "invalid port number"
  | invalidIpv4 => "invalid IPv4 address"
  | invalidIpv6 => "invalid IPv6 address"
  | invalidInternationalName => "invalid international domain name"
  | invalidDomainCharacter => "invalid domain character"

end RankedRelay
