import Scaffold.Url.Host
/-!
# Url.Reader — reading addresses

A text is cut into its parts at the first signs that introduce them; then each part is read and written as an address
holds it.  A relative address is resolved by putting its path and query behind the path of a base; of the base only what
comes before its query is kept.
-/
namespace Scaffold
namespace Url

def maxLength : Nat := 65536

structure Parts where
  scheme : List Char := []
  authority : List Char := []
  path : List Char := []
  query? : Option (List Char) := none
  fragment? : Option (List Char) := none

namespace Parts

def isSchemeChar (c : Char) : Bool := c.isAlphanum || c = '+' || c = '.' || c = '-'

/-- The scheme before a colon and what follows; a colon at the head counts as well. -/
def cutScheme (l : List Char) : List Char × List Char :=
  let scheme := l.takeWhile isSchemeChar
  match l.drop scheme.length with
  | ':' :: rest => if (scheme.head?.all Char.isAlpha) then (scheme, rest) else ([], l)
  | _ => ([], l)

def cutAuthority (l : List Char) : List Char × List Char :=
  match l with
  | '/' :: '/' :: rest => rest.span (fun c => c ≠ '/' && c ≠ '?' && c ≠ '#')
  | _ => ([], l)

def cutAt (sign : Char) (l : List Char) : List Char × Option (List Char) :=
  match l.span (· ≠ sign) with
  | (before, _ :: after) => (before, some after)
  | (before, []) => (before, none)

def ofText (l : List Char) : Parts :=
  let (scheme, l) := cutScheme l
  let (authority, l) := cutAuthority l
  let (l, fragment?) := cutAt '#' l
  let (path, query?) := cutAt '?' l
  ⟨scheme, authority, path, query?, fragment?⟩

end Parts

def cutUser (l : List Char) : List Char × List Char :=
  let after := (l.reverse.takeWhile (· ≠ '@')).reverse
  (l.take (l.length - after.length - 1), after)

/-- The host and the port after it; brackets at the head belong to the host with all between them. -/
def cutPort (l : List Char) : List Char × List Char :=
  let inBrackets := (l.reverse.dropWhile (· ≠ ']')).reverse
  let host := if l.head? = some '[' && !inBrackets.isEmpty then inBrackets else l.takeWhile (· ≠ ':')
  match l.drop host.length with
  | ':' :: port => (host, port)
  | port => (host, port)

/-- Segments with those carried out that stay or lead up, after those that were kept, the last of them first. -/
def settle : List (List Char) → List (List Char) → List (List Char)
  | kept, [] => kept.reverse
  | kept, ['.'] :: rest => settle kept rest
  | kept, ['.', '.'] :: rest => settle (if kept = [[]] then kept else kept.drop 1) rest
  | kept, s :: rest => settle (s :: kept) rest

def settledPath (l : List Char) : List Char := Text.join ['/'] (settle [] (Text.split '/' l))

/-- The path of an address without scheme and authority, which must not look like either. -/
def relativePath (l : List Char) : Except UrlError (List Char) :=
  match l with
  | '/' :: '/' :: _ => .error .doubleSlash
  | ':' :: _ => .error .colon
  | _ => .ok l

def ofParts (p : Parts) : Except UrlError Url := do
  let (user, l) := cutUser p.authority
  let (host, port) := cutPort l
  let host ← readHost host
  let port? ← readPort p.scheme port
  let u : Url :=
    { scheme := Text.lower p.scheme, user := escape .user user, host := host, port? := port?,
      query? := p.query?.map (escape .query), fragment? := p.fragment?.map (escape .fragment) }
  let path ← if u.scheme.isEmpty && u.authority.isEmpty then relativePath p.path else .ok (settledPath p.path)
  .ok { u with path := escape .path path }

def isControl (c : Char) : Bool := decide (c.toNat < 0x20) || c.toNat = 0x7f

def read (text : String) : Except UrlError Url :=
  let l := text.toList
  if maxLength < l.length then .error .tooLong
  else
    match l.span (!isControl ·) with
    | (before, c :: _) => .error (.unprintable c before.length)
    | (_, []) => ofParts (.ofText l)

def checkPart (name : String) (l : List Char) : Except UrlError Unit :=
  if maxLength < l.length then .error (.partTooLong name) else .ok ()

/-- **An address below a base**: its path and query behind the path of the base. -/
def below (base u : Url) : Except UrlError Url := do
  let directory := base.fullPath ++ (if base.fullPath.getLast? = some '/' then [] else ['/'])
  let (path, query?) := Parts.cutAt '?' (directory ++ u.pathAndQuery.dropWhile (· = '/'))
  checkPart "path" path
  checkPart "query" (query?.getD [])
  ofParts ⟨base.scheme, base.authority, path, query?, base.fragment?⟩

/-- **The address that a text stands for**, seen from a base if it is relative. -/
def resolve (base : Url) (text : String) : Except UrlError Url := do
  let u ← read text
  if u.isAbsolute then .ok u else base.below u

end Url
end Scaffold
