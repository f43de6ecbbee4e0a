import Scaffold.Text.CaseTable
/-!
# Text.Case — upper and lower case

Both mappings are the full ones: a character may become several, and a capital sigma at the end of a word becomes the
final form.  On ASCII they are the letters' shift by 32.
-/
namespace Scaffold
namespace Text

def isUpperAscii (c : Char) : Bool := decide (65 ≤ c.toNat) && decide (c.toNat ≤ 90)

def isLowerAscii (c : Char) : Bool := decide (97 ≤ c.toNat) && decide (c.toNat ≤ 122)

def isDigitAscii (c : Char) : Bool := decide (48 ≤ c.toNat) && decide (c.toNat ≤ 57)

def lowerChar (c : Char) : List Char :=
  if c.toNat < 128 then
    if isUpperAscii c then [Char.ofNat (c.toNat + 32)] else [c]
  else if c.toNat = 0x130 then ['i', '\u0307']
  else
    match Shift.image? lowerShifts c.toNat with
    | some n => [Char.ofNat n]
    | none => [c]

def upperChar (c : Char) : List Char :=
  if c.toNat < 128 then
    if isLowerAscii c then [Char.ofNat (c.toNat - 32)] else [c]
  else
    match upperExpansions.find? (fun e => e.1 == c.toNat) with
    | some e => e.2.map Char.ofNat
    | none =>
      match Shift.image? upperShifts c.toNat with
      | some n => [Char.ofNat n]
      | none => [c]

/-- The nearest character that is not passed over is a letter with case. -/
def nextToCased (l : List Char) : Bool :=
  match l.find? (fun c => !caseIgnorable.has c.toNat) with
  | some c => casedLetters.has c.toNat
  | none => false

/-- The lower case of a character between what stands before it, nearest first, and after it. -/
def lowerAt (before : List Char) (c : Char) (after : List Char) : List Char :=
  if c = 'Σ' then
    if nextToCased before && !nextToCased after then ['ς'] else ['σ']
  else lowerChar c

def lowerFrom (before : List Char) : List Char → List Char
  | [] => []
  | c :: rest => lowerAt before c rest ++ lowerFrom (c :: before) rest

def lower (l : List Char) : List Char := lowerFrom [] l

def upper (l : List Char) : List Char := l.flatMap upperChar

def capitalize : List Char → List Char
  | [] => []
  | c :: rest => upperChar c ++ rest

end Text
end Scaffold
