import Scaffold.Text.Quoted
/-!
# Text.Encoding — the encoding of a document

The first bytes of a document in ASCII show how it is encoded: where they are zero tells how wide a unit is and which of
its bytes comes first.  `decode` reads bytes in the encoding that `Encoding.ofBytes` finds.  Bytes in UTF-8 can always
be read; of the other encodings, a unit that is cut off and a number beyond the code points are refused.  A text that
holds half of a pair cannot be written in UTF-8.
-/
namespace Scaffold
namespace Text

inductive Encoding where
  | utf8
  | utf16 (bigEndian : Bool)
  | utf32 (bigEndian : Bool)
deriving DecidableEq, Repr

namespace Encoding

def name : Encoding → String
  | .utf8 => "utf-8"
  | .utf16 bigEndian => "utf-16-" ++ order bigEndian
  | .utf32 bigEndian => "utf-32-" ++ order bigEndian
where
  order (bigEndian : Bool) : String := if bigEndian then "be" else "le"

def ofBytes : List Nat → Encoding
  | 0 :: b :: _ :: _ :: _ => if b = 0 then .utf32 true else .utf16 true
  | _ :: 0 :: c :: d :: _ => if c = 0 && d = 0 then .utf32 false else .utf16 false
  | [0, _] => .utf16 true
  | [_, 0] => .utf16 false
  | _ => .utf8

end Encoding

inductive DecodeFault where
  | truncated
  | outOfRange
deriving DecidableEq, Repr

namespace DecodeFault

def text : DecodeFault → String
  | .truncated => "truncated data"
  | .outOfRange => "code point not in range(0x110000)"

end DecodeFault

structure DecodeError where
  encoding : Encoding
  position : Nat
  bytes : List Nat
  fault : DecodeFault
deriving DecidableEq, Repr

namespace DecodeError

def message (e : DecodeError) : String :=
  let what := match e.bytes with
    | [b] => s!"byte 0x{String.ofList (hex 2 b)} in position {e.position}"
    | l => s!"bytes in position {e.position}-{e.position + l.length - 1}"
  s!"'{e.encoding.name}' codec can't decode {what}: {e.fault.text}"

end DecodeError

/-- **Halves of pairs that cannot be written in UTF-8**: where they begin, the first of them, and how many follow it
directly. -/
structure EncodeError where
  position : Nat
  first : Fin 0x800
  following : Nat
deriving DecidableEq, Repr

namespace EncodeError

def message (e : EncodeError) : String :=
  let what := match e.following with
    | 0 => "character " ++ displayed ⟨[.half e.first]⟩ ++ s!" in position {e.position}"
    | n => s!"characters in position {e.position}-{e.position + n}"
  s!"'{Encoding.utf8.name}' codec can't encode {what}: surrogates not allowed"

end EncodeError

def encodeError? (l : List Sign) : Option EncodeError :=
  let before := l.takeWhile (fun x => !x.isHalf)
  match l.drop before.length with
  | .half n :: rest => some ⟨before.length, n, (rest.takeWhile Sign.isHalf).length⟩
  | _ => none

def unitOf (bigEndian : Bool) (l : List Nat) : Nat :=
  (if bigEndian then l else l.reverse).foldl (fun n b => n * 0x100 + b) 0

def isHighUnit (n : Nat) : Bool := decide (0xd800 ≤ n) && decide (n ≤ 0xdbff)

def isLowUnit (n : Nat) : Bool := decide (0xdc00 ≤ n) && decide (n ≤ 0xdfff)

def signOfPair (high low : Nat) : Sign := .char (Char.ofNat (0x10000 + (high - 0xd800) * 0x400 + (low - 0xdc00)))

/-- The signs of units of 16 bits, of which two that belong together make one. -/
def ofUnits : List Nat → List Sign
  | high :: low :: rest =>
    if isHighUnit high && isLowUnit low then signOfPair high low :: ofUnits rest
    else Sign.ofPoint high :: ofUnits (low :: rest)
  | [n] => [Sign.ofPoint n]
  | [] => []

/-- The units of 16 bits that bytes write, from a position on. -/
def units16 (bigEndian : Bool) : Nat → List Nat → Except DecodeError (List Nat)
  | position, a :: b :: rest => do
    let units ← units16 bigEndian (position + 2) rest
    .ok (unitOf bigEndian [a, b] :: units)
  | position, [b] => .error ⟨.utf16 bigEndian, position, [b], .truncated⟩
  | _, [] => .ok []

def signs32 (bigEndian : Bool) : Nat → List Nat → Except DecodeError (List Sign)
  | position, a :: b :: c :: d :: rest => do
    let n := unitOf bigEndian [a, b, c, d]
    if 0x110000 ≤ n then .error ⟨.utf32 bigEndian, position, [a, b, c, d], .outOfRange⟩
    let signs ← signs32 bigEndian (position + 4) rest
    .ok (Sign.ofPoint n :: signs)
  | _, [] => .ok []
  | position, l => .error ⟨.utf32 bigEndian, position, l, .truncated⟩

/-- **The text that bytes write** in the encoding that the first of them show; a byte order mark in UTF-8 is no part of
it. -/
def decode (l : List Nat) : Except DecodeError (List Sign) :=
  match Encoding.ofBytes l with
  | .utf8 => .ok ((withoutMark (Text.ofBytes l)).map .char)
  | .utf16 bigEndian => (units16 bigEndian 0 l).map ofUnits
  | .utf32 bigEndian => signs32 bigEndian 0 l

end Text
end Scaffold
