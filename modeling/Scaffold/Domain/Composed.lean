import Scaffold.Domain.CompositeTable
import Scaffold.Domain.MarkTable
/-!
# Domain.Composed — the composed form of a text

Every character is taken apart as far as possible, the marks behind each letter are put in the order of their classes,
and then each mark that can be joined to its letter is.  A text is composed if that leaves it as it was; a syllable that
is computed from its parts need not be taken apart for that.  All on code points.
-/
namespace Scaffold
namespace Domain

/-- The combining class: zero for letters, and for the marks that are not ordered. -/
def combiningClass (n : Nat) : Nat :=
  match combiningClasses.find? (fun r => decide (r.1 ≤ n) && decide (n ≤ r.2.1)) with
  | some r => r.2.2
  | none => 0

def parts? (n : Nat) : Option (Nat × Nat) := (composites.find? (fun t => t.2.2 = n)).map (fun t => (t.1, t.2.1))

/-- The syllable of a Korean consonant and vowel, or of such a syllable and a consonant that closes it. -/
def syllable? (first second : Nat) : Option Nat :=
  if 0x1100 ≤ first && first < 0x1113 && 0x1161 ≤ second && second < 0x1176 then
    some (0xac00 + ((first - 0x1100) * 21 + (second - 0x1161)) * 28)
  else if 0xac00 ≤ first && first < 0xd7a4 && (first - 0xac00) % 28 = 0 && 0x11a8 ≤ second && second < 0x11c3 then
    some (first + (second - 0x11a7))
  else none

def composite? (first second : Nat) : Option Nat :=
  ((composites.find? (fun t => t.1 = first && t.2.1 = second)).map (·.2.2)).or (syllable? first second)

/-- How many times in a row the first part of a composite can be a composite. -/
def maxParts : Nat := 4

def decompose : Nat → Nat → List Nat
  | 0, n => [n]
  | fuel + 1, n =>
    match parts? n with
    | some (first, second) => decompose fuel first ++ [second]
    | none => [n]

/-- Puts a character in front of ordered ones: past the marks of lesser classes that follow. -/
def insertMark (n : Nat) : List Nat → List Nat
  | [] => [n]
  | m :: rest =>
    if combiningClass m ≠ 0 && combiningClass m < combiningClass n then m :: insertMark n rest else n :: m :: rest

/-- **The marks in the order of their classes**; those of one class stay in their order. -/
def ordered (l : List Nat) : List Nat := l.foldr insertMark []

/-- Joins what follows to a letter, behind which the marks stand that could not be joined, the last of them first.  A
mark is out of reach behind one of its own class or of a greater one. -/
def joinTo (letter : Nat) (marks : List Nat) : List Nat → List Nat
  | [] => letter :: marks.reverse
  | n :: rest =>
    let reachable := match marks with
      | [] => true
      | m :: _ => combiningClass m < combiningClass n
    match if reachable then composite? letter n else none with
    | some c => joinTo c marks rest
    | none =>
      if combiningClass n = 0 then letter :: marks.reverse ++ joinTo n [] rest else joinTo letter (n :: marks) rest

def joined : List Nat → List Nat
  | [] => []
  | n :: rest => if combiningClass n = 0 then joinTo n [] rest else n :: joined rest

def composed (l : List Nat) : List Nat := joined (ordered (l.flatMap (decompose maxParts)))

def isComposed (l : List Nat) : Bool := !l.any replaced.has && composed l = l

end Domain
end Scaffold
