import Scaffold.Text.Case
import Scaffold.Text.Quoted
import Scaffold.Text.Utf8
/-!
# Url.Escape — characters that an address cannot hold

Each part of an address holds some ASCII characters as they are.  Any other character is written byte by byte, as a
percent sign and two hexadecimal digits.  A percent sign stays, so that nothing is escaped twice.
-/
namespace Scaffold
namespace Url

inductive Part where
  | user
  | host
  | path
  | query
  | fragment
deriving DecidableEq, Repr

namespace Part

/-- The ASCII characters besides the controls that a part does not hold as they are. -/
def unsafeCharacters : Part → List Char
  | .user => " \"#<>?\x60\x7b\x7d/;=@[\\]^|".toList
  | .host => " #/:<>?@[]^".toList
  | .path => " \"#<>?\x60\x7b\x7d".toList
  | .query => " \"#<>".toList
  | .fragment => " \"<>\x60".toList

def isSafe (p : Part) (c : Char) : Bool :=
  decide (0x20 ≤ c.toNat) && decide (c.toNat < 0x7f) && !p.unsafeCharacters.contains c

end Part

def escapeChar (c : Char) : List Char :=
  (Text.bytes [c]).flatMap (fun b => '%' :: Text.upper (Text.hex 2 b))

def escape (p : Part) (l : List Char) : List Char := l.flatMap (fun c => if p.isSafe c then [c] else escapeChar c)

/-- The bytes of a text in which a percent sign and two hexadecimal digits stand for a byte. -/
def unescaped : List Char → List Nat
  | '%' :: a :: b :: rest =>
    match Text.hexValue? a, Text.hexValue? b with
    | some x, some y => (16 * x + y) :: unescaped rest
    | _, _ => Text.bytes ['%'] ++ unescaped (a :: b :: rest)
  | c :: rest => Text.bytes [c] ++ unescaped rest
  | [] => []

def unescape (l : List Char) : List Char := Text.ofBytes (unescaped l)

end Url
end Scaffold
