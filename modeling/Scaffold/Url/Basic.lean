import Scaffold.Text.Blank
import Scaffold.Text.Digit
import Scaffold.Text.Quoted
/-!
# Url — addresses of resources

An address has a scheme, a host and a path, and may have a user, a port, a query and a fragment; whatever is not there
is empty, and a relative address has no scheme or no host.  All is kept as it is written in an address, in ASCII.
-/
namespace Scaffold

structure Url where
  scheme : List Char := []
  user : List Char := []
  host : List Char := []
  port? : Option Int := none
  path : List Char := []
  query? : Option (List Char) := none
  fragment? : Option (List Char) := none
deriving DecidableEq, Repr

inductive UrlError where
  | tooLong
  | partTooLong (part : String)
  | unprintable (c : Char) (position : Nat)
  | badPort (port : List Char)
  | badQuad (host : List Char)
  | badGroups (host : List Char)
  | badDomain (host : List Char)
  | doubleSlash
  | colon
deriving DecidableEq, Repr

namespace UrlError

def message : UrlError → String
  | .tooLong => "URL too long"
  | .partTooLong part => s!"URL component '{part}' too long"
  | .unprintable c position =>
    s!"Invalid non-printable ASCII character in URL, {displayed (String.ofList [c])} at position {position}."
  | .badPort port => "Invalid port: " ++ displayed (String.ofList port)
  | .badQuad host => "Invalid IPv4 address: " ++ displayed (String.ofList host)
  | .badGroups host => "Invalid IPv6 address: " ++ displayed (String.ofList host)
  | .badDomain host => "Invalid IDNA hostname: " ++ displayed (String.ofList host)
  | .doubleSlash => "Relative URLs cannot have a path starting with '//'"
  | .colon => "Relative URLs cannot have a path starting with ':'"

end UrlError

namespace Url

/-- **An address that says where a resource is**, whatever it is seen from. -/
def isAbsolute (u : Url) : Bool := !u.scheme.isEmpty && !u.host.isEmpty

/-- The host and the port; a host of groups stands in brackets. -/
def hostAndPort (u : Url) : List Char :=
  (if u.host.contains ':' then '[' :: u.host ++ [']'] else u.host) ++
    (match u.port? with
      | some n => ':' :: Text.intNumeral n
      | none => [])

def authority (u : Url) : List Char := (if u.user.isEmpty then [] else u.user ++ ['@']) ++ u.hostAndPort

def introduced (sign : Char) : Option (List Char) → List Char
  | some l => sign :: l
  | none => []

def text (u : Url) : String :=
  String.ofList ((if u.scheme.isEmpty then [] else u.scheme ++ [':']) ++
    (if u.authority.isEmpty then [] else '/' :: '/' :: u.authority) ++
    u.path ++ introduced '?' u.query? ++ introduced '#' u.fragment?)

def fullPath (u : Url) : List Char := if u.path.isEmpty then ['/'] else u.path

def pathAndQuery (u : Url) : List Char := u.fullPath ++ introduced '?' u.query?

end Url
end Scaffold
