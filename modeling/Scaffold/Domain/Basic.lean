import Scaffold.Domain.Label
import Scaffold.Domain.Punycode
/-!
# Domain — names of hosts in any script

A domain name is made of labels with full stops between them, in any of four forms.  In its ASCII form each label that
is not in ASCII is `xn--` and the ASCII form of its characters.  A label and the whole name have a greatest length; a
full stop at the end belongs to the name.
-/
namespace Scaffold
namespace Domain

def isFullStop (c : Char) : Bool := c = '.' || c = '。' || c = '．' || c = '｡'

def labels : List Char → List (List Char)
  | [] => [[]]
  | c :: rest =>
    if isFullStop c then [] :: labels rest
    else match labels rest with
      | [] => [[c]]
      | l :: ls => (c :: l) :: ls

/-- What labels in another form begin with. -/
def marker : List Char := "xn--".toList

def maxLabel : Nat := 63

def maxName : Nat := 253

/-- A label that is in another form. -/
def isMarked (l : List Char) : Bool := l.all Punycode.isAscii && marker.isPrefixOf l

def asciiLabel (l : List Char) : List Char :=
  if l.all Punycode.isAscii then l else marker ++ Punycode.encode (l.map Char.toNat)

inductive Error where
  | tooLong
  | label (label : List Nat) (fault : Label.Fault)
  | noContent
  | finalHyphen
  | malformed
  | notCanonical
deriving DecidableEq, Repr

namespace Error

def message : Error → String
  | .tooLong => "Domain too long"
  | .label l fault => fault.message l
  | .noContent => "Malformed A-label, no Punycode eligible content found"
  | .finalHyphen => "A-label must not end with a hyphen"
  | .malformed => "Invalid A-label"
  | .notCanonical => "A-label is not the canonical Punycode encoding of its U-label"

end Error

def checkLabel (l : List Nat) : Except Error (List Nat) :=
  match Label.fault? l with
  | some fault => .error (.label l fault)
  | none => .ok l

/-- The code points of a label whose ASCII form is given without the marker; no label has two such forms. -/
def readForm (form : List Char) : Except Error (List Nat) :=
  if form.isEmpty then .error .noContent
  else if form.getLast? = some '-' then .error .finalHyphen
  else
    match Punycode.decode? form with
    | none => .error .malformed
    | some l => if Punycode.encode l = form then checkLabel l else .error .notCanonical

def readLabel (l : List Char) : Except Error (List Nat) :=
  if isMarked l then readForm (l.drop marker.length) else checkLabel (l.map Char.toNat)

def label? (l : List Char) : Option (List Char) :=
  -- no label gets shorter in its ASCII form
  if maxLabel < l.length then none
  else
    let form := asciiLabel l
    match readLabel l with
    | .ok _ => if form.length ≤ maxLabel then some form else none
    | .error _ => none

def joinLabels : List (List Char) → List Char
  | [] => []
  | [l] => l
  | l :: ls => l ++ '.' :: joinLabels ls

/-- The labels of a name without the empty one after a final full stop, and whether there is one. -/
def rooted (l : List Char) : List (List Char) × Bool :=
  let parts := labels l
  if parts.getLast? = some [] then (parts.dropLast, true) else (parts, false)

def ascii? (l : List Char) : Option (List Char) := do
  let (parts, isRooted) := rooted l
  let forms ← parts.mapM label?
  let name := joinLabels forms
  if forms.isEmpty || maxName < name.length then none else some (if isRooted then name ++ ['.'] else name)

/-- **The labels of the domain name with an ASCII form**, in any spelling of case; the form may be as long as the
longest name with a final full stop. -/
def read (l : List Char) : Except Error (List (List Nat)) :=
  if maxName + 1 < l.length then .error .tooLong else (rooted (Text.lower l)).1.mapM readLabel

end Domain
end Scaffold
