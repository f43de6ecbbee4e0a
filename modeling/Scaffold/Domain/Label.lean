import Scaffold.Domain.Composed
import Scaffold.Domain.DirectionTable
import Scaffold.Domain.JoiningTable
import Scaffold.Domain.LetterTable
import Scaffold.Domain.ScriptTable
import Scaffold.Text.Case
import Scaffold.Text.Quoted
/-!
# Domain.Label — the labels of a domain name

A label is made of letters, digits, marks and hyphens, in composed form.  It does not begin with a mark, and hyphens
stand neither at its ends nor together in its third and fourth place.  A few characters are allowed only beside certain
others.  If anything in it is written from right to left, the directions in it must fit together.  `fault?` gives the
first thing that is wrong with a label.  All on code points.
-/
namespace Scaffold
namespace Domain
namespace Label

open Text

/-- **What is wrong with a label**; places are counted from one. -/
inductive Fault where
  | empty
  | notComposed
  | innerHyphens
  | outerHyphen
  | initialMark
  | joiner (point position : Nat)
  | besideJoiner (point position : Nat)
  | misplaced (point position : Nat)
  | notAllowed (point position : Nat)
  | unknownDirection (position : Nat)
  | directionAtStart
  | direction (fromRight : Bool) (position : Nat)
  | mixedNumbers
  | directionAtEnd
deriving DecidableEq, Repr

namespace Fault

def pointText (n : Nat) : String :=
  let width := if n < 0x10000 then 4 else if n < 0x100000 then 5 else 6
  "U+" ++ String.ofList (upper (hex width n))

def message (label : List Nat) (f : Fault) : String :=
  let shown := displayed (.ofPoints label)
  match f with
  | .empty => "Empty Label"
  | .notComposed => "Label must be in Normalization Form C"
  | .innerHyphens => "Label has disallowed hyphens in 3rd and 4th position"
  | .outerHyphen => "Label must not start or end with a hyphen"
  | .initialMark => "Label begins with an illegal combining character"
  | .joiner n position => s!"Joiner {pointText n} not allowed at position {position} in {shown}"
  | .besideJoiner n position =>
    s!"Unknown codepoint adjacent to joiner {pointText n} at position {position} in {shown}"
  | .misplaced n position => s!"Codepoint {pointText n} not allowed at position {position} in {shown}"
  | .notAllowed n position => s!"Codepoint {pointText n} at position {position} of {shown} not allowed"
  | .unknownDirection position => s!"Unknown directionality in label {shown} at position {position}"
  | .directionAtStart => s!"First codepoint in label {shown} must be directionality L, R or AL"
  | .direction fromRight position =>
    let side := if fromRight then "right-to-left" else "left-to-right"
    s!"Invalid direction for codepoint at position {position} in a {side} label"
  | .mixedNumbers => "Can not mix numeral types in a right-to-left label"
  | .directionAtEnd => "Label ends with illegal codepoint directionality"

end Fault

inductive Direction where
  | left
  | right
  | arabicNumber
  | europeanNumber
  | mark
  | neutral
deriving DecidableEq, Repr

def direction (n : Nat) : Direction :=
  if directionlessMarks.has n then .mark
  else if rightToLeft.has n then .right
  else if arabicNumbers.has n then .arabicNumber
  else if europeanNumbers.has n then .europeanNumber
  else if neutrals.has n then .neutral
  else .left

def Direction.isFromRight : Direction → Bool
  | .left => false
  | _ => true

def Direction.isFromLeft : Direction → Bool
  | .right | .arabicNumber => false
  | _ => true

def Direction.endsFromRight : Direction → Bool
  | .right | .arabicNumber | .europeanNumber => true
  | _ => false

def Direction.endsFromLeft : Direction → Bool
  | .left | .europeanNumber => true
  | _ => false

/-- The mark that takes the vowel of a letter away stands last. -/
def endsInVirama (before : List Nat) : Bool := (before.head?.map combiningClass) = some 9

def nearest (l : List Nat) (joins : Nat → Bool) : Bool :=
  match l.dropWhile transparent.has with
  | n :: _ => joins n
  | [] => false

/-- A joiner is allowed after a virama; the one that keeps letters apart also between letters that would join. -/
def joinerFits (before : List Nat) (n : Nat) (after : List Nat) : Bool :=
  endsInVirama before ||
    (n = 0x200c && nearest before (fun n => joiningLeft.has n || joiningBoth.has n) &&
      nearest after (fun n => joiningRight.has n || joiningBoth.has n))

def isJoiner (n : Nat) : Bool := n = 0x200c || n = 0x200d

def isIndicDigit (n : Nat) : Bool := decide (0x660 ≤ n) && decide (n ≤ 0x669)

def isExtendedDigit (n : Nat) : Bool := decide (0x6f0 ≤ n) && decide (n ≤ 0x6f9)

def isContextual (n : Nat) : Bool :=
  [0xb7, 0x375, 0x5f3, 0x5f4, 0x30fb].contains n || isIndicDigit n || isExtendedDigit n

/-- A contextual character fits between what stands before it, nearest first, and after it. -/
def contextFits (before : List Nat) (n : Nat) (after : List Nat) : Bool :=
  let label := before ++ after
  if n = 0xb7 then before.head? = some 0x6c && after.head? = some 0x6c
  else if n = 0x375 then after.head?.any greek.has
  else if n = 0x5f3 || n = 0x5f4 then before.head?.any hebrew.has
  else if n = 0x30fb then label.any (fun m => m ≠ 0x30fb && (kana.has m || han.has m))
  else if isIndicDigit n then !label.any isExtendedDigit
  else !label.any isIndicDigit

/-- It is not known whether the character is a virama. -/
def isUnknown (n : Nat) : Bool := laterLetters.has n || namelessLetters.has n

/-- **The fault of a character at its place**, between what stands before it, nearest first, and after it. -/
def faultAt (before : List Nat) (n : Nat) (after : List Nat) : Option Fault :=
  let position := before.length + 1
  if letters.has n || laterLetters.has n then none
  else if isJoiner n then
    if before.head?.any isUnknown then some (.besideJoiner n position)
    else if joinerFits before n after then none
    else some (.joiner n position)
  else if isContextual n then
    if contextFits before n after then none else some (.misplaced n position)
  else some (.notAllowed n position)

def placeFault? (before : List Nat) : List Nat → Option Fault
  | [] => none
  | n :: rest => (faultAt before n rest).or (placeFault? (n :: before) rest)

def beginsWithMark (l : List Nat) : Bool := l.head?.any marks.has

/-- The first fault in the directions of a label written from the right; `number?` is the kind of number so far. -/
def fromRightFault? (number? : Option Direction) (position : Nat) : List Direction → Option Fault
  | [] => none
  | d :: rest =>
    if !d.isFromRight then some (.direction true position)
    else if d = .arabicNumber || d = .europeanNumber then
      if number?.any (· ≠ d) then some .mixedNumbers else fromRightFault? (some d) (position + 1) rest
    else fromRightFault? number? (position + 1) rest

def fromLeftFault? (position : Nat) : List Direction → Option Fault
  | [] => none
  | d :: rest => if d.isFromLeft then fromLeftFault? (position + 1) rest else some (.direction false position)

/-- The fault of the last direction that is not that of a mark. -/
def endFault? (ends : Direction → Bool) (l : List Direction) : Option Fault :=
  match l.reverse.find? (· ≠ .mark) with
  | some d => if ends d then none else some .directionAtEnd
  | none => some .directionAtEnd

def unknownFault? (l : List Nat) : Option Fault :=
  (l.findIdx? laterLetters.has).map (fun i => .unknownDirection (i + 1))

/-- **The fault in the directions of a label** in which something is written from the right: it must begin with a
letter, and hold and end with what goes with the direction of that. -/
def directionFault? (l : List Nat) : Option Fault :=
  let l := l.map direction
  if l.contains .right || l.contains .arabicNumber then
    match l.head? with
    | some .right => (fromRightFault? none 1 l).or (endFault? Direction.endsFromRight l)
    | some .left => (fromLeftFault? 1 l).or (endFault? Direction.endsFromLeft l)
    | _ => some .directionAtStart
  else none

def faultIf (condition : Bool) (f : Fault) : Option Fault := if condition then some f else none

def fault? (l : List Nat) : Option Fault :=
  (faultIf l.isEmpty .empty).or <| (faultIf (!isComposed l) .notComposed).or <|
  (faultIf ((l.drop 2).take 2 = [0x2d, 0x2d]) .innerHyphens).or <|
  (faultIf (l.head? = some 0x2d || l.getLast? = some 0x2d) .outerHyphen).or <|
  (faultIf (beginsWithMark l) .initialMark).or <| (placeFault? [] l).or <| (unknownFault? l).or (directionFault? l)

end Label
end Domain
end Scaffold
