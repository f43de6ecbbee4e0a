import Scaffold.Check.Basic
import Scaffold.Text.Blank
import Scaffold.Text.Case
/-!
# Check.Number — numbers given as values or as texts

A text is read as a number when it is one in ASCII digits, white space around it aside.  Single underscores may stand
between digits; a whole number may have leading zeros, with any underscores among them, and a fraction of zeros.
-/
namespace Scaffold
namespace Check

open Text

/-- White space around a numeral; the information separators are none. -/
def isPadding (c : Char) : Bool := isBlank c && !(decide (28 ≤ c.toNat) && decide (c.toNat ≤ 31))

def unpadded (l : List Char) : List Char :=
  ((l.dropWhile isPadding).reverse.dropWhile isPadding).reverse

/-- A numeral with its leading zeros taken off, and the underscores among them.  One zero stays before a point, and what
is last stays where there is nothing else. -/
def fromFirstDigit? (l : List Char) : Option (List Char) :=
  match l with
  | '0' :: _ =>
    let zeros := l.takeWhile (fun c => c = '0' || c = '_')
    match l.drop zeros.length with
    | [] => some (l.drop (l.length - 1))
    | c :: rest =>
      if c = '.' then some (l.drop (zeros.length - 1))
      else if isDigitAscii c || c = '-' then some (c :: rest) else none
  | c :: _ => if isDigitAscii c || c = '-' then some l else none
  | [] => none

/-- The whole part of a number whose fraction is zeros; any other text as it is. -/
def withoutZeroFraction (l : List Char) : List Char :=
  match l.dropWhile (· ≠ '.') with
  | '.' :: zeros => if !zeros.isEmpty && zeros.all (· = '0') then l.takeWhile (· ≠ '.') else l
  | _ => l

/-- **A numeral in its plain form**: no white space, no plus sign, no needless zeros and no underscores. -/
def plainNumeral? (l : List Char) : Option (List Char) := do
  let (negative, digits) ← match unpadded l with
    | '+' :: '-' :: _ => none
    | l => some (signed l)
  let digits ← fromFirstDigit? digits
  let l := withoutZeroFraction (if negative then '-' :: digits else digits)
  some ((withoutUnderscores? l).getD l)

def negated (l : List Char) : Bool × List Char :=
  match l with
  | '-' :: rest => (true, rest)
  | _ => (false, l)

/-- The integer of a plain numeral: not too many digits that do not begin with a zero, or a zero, with at most a minus
sign. -/
def intOfNumeral? (l : List Char) : Option Int :=
  let (negative, digits) := negated l
  if digits.isEmpty || !digits.all isDigitAscii || maxDigits < digits.length then none
  else if digits.head? = some '0' && digits ≠ ['0'] then none
  else
    let n : Int := Text.natOfDigits digits
    some (if negative then -n else n)

/-- The digits with which a text begins, a minus sign aside; none if the first is a zero. -/
def leadingDigits (l : List Char) : List Char :=
  match (negated l).2.takeWhile isDigitAscii with
  | '0' :: _ => []
  | digits => digits

/-- **The integer that a text writes**, or why it writes none.  A text that begins with too many digits is too long
whatever follows; with anything before them it is no numeral. -/
def intOfText (l : List Char) : Except Fault Int :=
  if maxDigits < (leadingDigits l).length then .error .outsizeInt
  else
    match (plainNumeral? l).bind intOfNumeral? with
    | some n => .ok n
    | none => .error .unreadableInt

/-- **An integer**, also given as a truth value, as a number without fraction or as text. -/
def int (place : List Step) (v : Json) : Checked Int :=
  match v with
  | .int n => .ok n
  | .bool b => .ok (if b then 1 else 0)
  | .float x => match x, x.toInt?, wordOf? x with
    | _, _, some n => .ok n
    | _, some _, none => .fault place .outsizeInt v
    | .finite .., none, none => .fault place .fractionalInt v
    | _, none, none => .fault place .notFinite v
  | .str w => text place w (fun s => match intOfText s.toList with
    | .ok n => .ok n
    | .error fault => .fault place fault v)
  | _ => .fault place .notInt v

def floatWords : List (String × (Bool → Binary64)) :=
  [("inf", .infinite), ("infinity", .infinite), ("nan", fun _ => .nan)]

def unsignedFloat? (negative : Bool) (l : List Char) : Option Binary64 :=
  match floatWords.find? (fun w => w.1 = (String.ofList l).toLower) with
  | some w => some (w.2 negative)
  | none =>
    let whole := l.takeWhile isDigitAscii
    let l := l.drop whole.length
    let fraction := match l with
      | '.' :: rest => rest.takeWhile isDigitAscii
      | _ => []
    let l := match l with
      | '.' :: rest => rest.drop fraction.length
      | l => l
    if whole.isEmpty && fraction.isEmpty then none
    else
      let digits := Text.natOfDigits (whole ++ fraction)
      match l with
      | [] => some (Binary64.ofDecimal negative digits (-fraction.length))
      | e :: rest =>
        if e ≠ 'e' && e ≠ 'E' then none
        else
          let (below, power) := signed rest
          if power.isEmpty || !power.all isDigitAscii then none
          else
            -- beyond six digits the exponent decides alone, whatever the digits before it
            let size := (power.dropWhile (· == '0')).length
            let k : Int := if 6 < size then 10000000 else Text.natOfDigits power
            some (Binary64.ofDecimal negative digits ((if below then -k else k) - fraction.length))

/-- **The number that a text writes.**  White space around it and underscores in it are not allowed together. -/
def floatOfText? (l : List Char) : Option Binary64 :=
  let read (l : List Char) : Option Binary64 :=
    let (negative, rest) := signed l
    unsignedFloat? negative rest
  match read (unpadded l) with
  | some x => some x
  | none => (withoutUnderscores? l).bind read

/-- **A number**, also given as a truth value or as text; an integer beyond all numbers is none. -/
def float (place : List Step) (v : Json) : Checked Binary64 :=
  match v with
  | .float x => .ok x
  | .int n => match Binary64.ofInt n with
    | .infinite _ => .fault place .notFloat v
    | x => .ok x
  | .bool b => .ok (Binary64.ofInt (if b then 1 else 0))
  | .str w => text place w (fun s => match floatOfText? s.toList with
    | some x => .ok x
    | none => .fault place .unreadableFloat v)
  | _ => .fault place .notFloat v

end Check
end Scaffold
