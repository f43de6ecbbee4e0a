import Scaffold.Domain.Basic
import Scaffold.Text.Case
import Scaffold.Url.Basic
import Scaffold.Url.Escape
import Scaffold.Url.Number
/-!
# Url.Host — hosts and ports

A host is given by numbers or by name.  A name in ASCII is taken in lower case, whatever it is made of; any other must
be a domain name and is taken in its ASCII form.  A port that a scheme has anyway is left out.  Not every host that an
address may have can be sent to.
-/
namespace Scaffold
namespace Url

def readHost (l : List Char) : Except UrlError (List Char) :=
  if l.isEmpty then .ok []
  else if looksLikeQuad l then if isQuad l then .ok l else .error (.badQuad l)
  else if l.head? = some '[' && l.getLast? = some ']' then
    let address := (l.drop 1).dropLast
    if isGrouped address then .ok address else .error (.badGroups l)
  else if l.all Punycode.isAscii then .ok (escape .host (Text.lower l))
  else
    match Domain.ascii? (Text.lower l) with
    | some name => .ok name
    | none => .error (.badDomain l)

def defaultPorts : List (List Char × Int) :=
  [("ftp".toList, 21), ("http".toList, 80), ("https".toList, 443), ("ws".toList, 80), ("wss".toList, 443)]

/-- The number that a port writes: digits of any script with a sign, underscores between them and white space around. -/
def portNumber? (l : List Char) : Option Int := do
  let (negative, digits) := Text.signed (Text.trim l)
  let digits ← Text.withoutUnderscores? digits
  if digits.isEmpty || !digits.all Text.isDecimal || Text.maxDigits < digits.length then none
  else
    let n : Int := Text.natOfDigits digits
    some (if negative then -n else n)

/-- **The port that a text gives**, unless it is that of the scheme. -/
def readPort (scheme l : List Char) : Except UrlError (Option Int) :=
  if l.isEmpty then .ok none
  else
    match portNumber? l with
    | none => .error (.badPort l)
    | some n => .ok (if defaultPorts.contains (scheme, n) then none else some n)

/-- **Why nothing can be sent to a host**: its name is none, or it holds characters that no message can name. -/
inductive HostError where
  | name (e : Domain.Error)
  | notAscii (first : Char) (position count : Nat)
deriving DecidableEq, Repr

namespace HostError

def escaped (c : Char) : List Char :=
  let n := c.toNat
  if n < 0x100 then "\\x".toList ++ Text.hex 2 n
  else if n < 0x10000 then "\\u".toList ++ Text.hex 4 n
  else "\\U".toList ++ Text.hex 8 n

def message : HostError → String
  | .name e => e.message
  | .notAscii first position count =>
    let what := if count = 1 then s!"character '{String.ofList (escaped first)}' in position {position}"
      else s!"characters in position {position}-{position + count - 1}"
    s!"'ascii' codec can't encode {what}: ordinal not in range(128)"

end HostError

def checkAscii (l : List Char) : Except HostError Unit :=
  match l.span Punycode.isAscii with
  | (_, []) => .ok ()
  | (before, c :: rest) => .error (.notAscii c before.length ((rest.takeWhile (!Punycode.isAscii ·)).length + 1))

/-- **The host of an address can be sent to**: its name, if that is in ASCII form, can be read, and host and port are in
ASCII. -/
def checkHost (u : Url) : Except HostError Unit := do
  if Domain.marker.isPrefixOf u.host then
    let _ ← (Domain.read u.host).mapError .name
  checkAscii u.hostAndPort

end Url
end Scaffold
