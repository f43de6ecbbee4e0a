import Scaffold.Text.Blank
import Scaffold.Text.Case
import Scaffold.Text.Digit
import Scaffold.Text.Quoted
/-!
# Url.Number — hosts given by numbers

An address of four numbers has points between them, each in up to three digits without a zero in front and at most 255.
An address of eight groups of hexadecimal digits has colons between them; one run of zero groups may be left out, and
the last two groups may be given as four numbers.  A zone may follow it after a percent sign.
-/
namespace Scaffold
namespace Url

open Text

def isOctet (l : List Char) : Bool :=
  !l.isEmpty && l.all isDigitAscii && decide (l.length ≤ 3) && (l = ['0'] || l.head? ≠ some '0') &&
    decide (natOfDigits l ≤ 255)

def isQuad (l : List Char) : Bool :=
  let parts := split '.' l
  parts.length = 4 && parts.all isOctet

/-- **A host that can only be an address of four numbers**: four runs of digits with points between them. -/
def looksLikeQuad (l : List Char) : Bool :=
  let parts := split '.' l
  parts.length = 4 && parts.all (fun part => !part.isEmpty && part.all isDigitAscii)

def isGroup (l : List Char) : Bool := !l.isEmpty && decide (l.length ≤ 4) && l.all (fun c => (hexValue? c).isSome)

/-- The groups with the last two in place of an address of four numbers. -/
def withoutQuad? (parts : List (List Char)) : Option (List (List Char)) :=
  match parts.getLast? with
  | some last =>
    if last.contains '.' then
      if isQuad last then some (parts.dropLast ++ [['0'], ['0']]) else none
    else some parts
  | none => some parts

/-- The groups before and after those that are left out; at an end of the address, colons leave two groups empty. -/
def gap? (parts : List (List Char)) : Option (List (List Char) × List (List Char)) :=
  let before := parts.takeWhile (!·.isEmpty)
  match before, parts.drop before.length with
  | _, [] => none
  | [], _ :: [] :: after => some ([], if after = [[]] then [] else after)
  | [], _ => none
  | _, [_] => none
  | _, _ :: after => some (before, if after = [[]] then [] else after)

/-- Eight groups, or fewer with a gap. -/
def areGroups (parts : List (List Char)) : Bool :=
  match gap? parts with
  | some (before, after) => (before ++ after).all isGroup && decide (before.length + after.length ≤ 7)
  | none => parts.all isGroup && parts.length = 8

def isGrouped (l : List Char) : Bool :=
  let address := l.takeWhile (· ≠ '%')
  let zoneFits := match l.drop address.length with
    | [] => true
    | _ :: zone => !zone.isEmpty && !zone.contains '%'
  let parts := split ':' address
  zoneFits && decide (3 ≤ parts.length) &&
    (match withoutQuad? parts with
      | some parts => areGroups parts
      | none => false)

end Url
end Scaffold
