/-!
# Url — failures

Why a text is no URL.
-/

namespace Dossier

inductive UrlError where
  | emptyHost
  | invalidDomainName
  | invalidPortNumber
  | invalidIpv4
  | invalidIpv6
  | invalidHostCharacter
  | relativeWithoutBase
  /-- The base has a path that nothing can be relative to, as `mailto:a@b` has. -/
  | relativeToFlatBase
  /-- Such a URL is given a host. -/
  | hostOfFlatBase
  | overflow
  deriving DecidableEq

def UrlError.message : UrlError → String
  | .emptyHost => "empty host"
  | .invalidDomainName => "invalid international domain name"
  | .invalidPortNumber => "invalid port number"
  | .invalidIpv4 => "invalid IPv4 address"
  | .invalidIpv6 => "invalid IPv6 address"
  | .invalidHostCharacter => "invalid domain character"
  | .relativeWithoutBase => "relative URL without a base"
  | .relativeToFlatBase => "relative URL with a cannot-be-a-base base"
  | .hostOfFlatBase => "a cannot-be-a-base URL doesn’t have a host to set"
  | .overflow => "URLs more than 4 GB are not supported"

end Dossier
