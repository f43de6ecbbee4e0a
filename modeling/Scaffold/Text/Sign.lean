import Scaffold.Text.Utf8
/-!
# Text.Sign — what texts from outside are made of

Characters beyond the first 65536 are written as pairs of 16-bit units, and a text from outside may hold half of a pair
without the other.  Such a half has a code point but is no character; it is shown as the replacement character.
-/
namespace Scaffold
namespace Text

/-- **A sign of a text**: a character, or half of a pair, given by its distance from the first of all halves. -/
inductive Sign where
  | char (c : Char)
  | half (n : Fin 0x800)
deriving DecidableEq, Repr

def firstHalf : Nat := 0xd800

namespace Sign

def ofPoint (n : Nat) : Sign :=
  if h : n - firstHalf < 0x800 ∧ firstHalf ≤ n then .half ⟨n - firstHalf, h.1⟩ else .char (Char.ofNat n)

def char? : Sign → Option Char
  | .char c => some c
  | .half _ => none

/-- **The character as which the sign is shown.** -/
def shown : Sign → Char
  | .char c => c
  | .half _ => replacement

def isHalf : Sign → Bool
  | .char _ => false
  | .half _ => true

end Sign
end Text
end Scaffold
