import Scaffold.Url.Reader
/-!
# Web.Target — from the target of a request to a path

A target is an address, mostly a relative one; it is seen from where the service is.  What the service goes by is the
path of it, with the escapes read.
-/
namespace Scaffold
namespace Web
namespace Target

def origin : Url := { scheme := "http".toList, host := "localhost".toList, path := ['/'] }

def address (target : String) : Except UrlError Url := origin.resolve target

def path (u : Url) : List Char := Url.unescape u.fullPath

end Target
end Web
end Scaffold
