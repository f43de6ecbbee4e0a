/-!
# Domain.Punycode — any code points written in ASCII

The ASCII characters come first as they are, and a hyphen after them if there are any.  Then each other character, from
the least on, is given by a numeral: how many places were passed since the last one, where for every code point there is
a place between any two characters written so far.  The digits of a numeral have a base of 36, the least first, and a
digit below its threshold is the last one.
-/
namespace Scaffold
namespace Punycode

def digit (n : Nat) : Char := if n < 26 then Char.ofNat (97 + n) else Char.ofNat (22 + n)

def digitValue? (c : Char) : Option Nat :=
  let n := c.toNat
  if 97 ≤ n ∧ n ≤ 122 then some (n - 97)
  else if 65 ≤ n ∧ n ≤ 90 then some (n - 65)
  else if 48 ≤ n ∧ n ≤ 57 then some (n - 22)
  else none

/-- **The threshold of the digit at a place**: between one and 26. -/
def threshold (bias place : Nat) : Nat := min 26 (max 1 (36 * (place + 1) - bias))

theorem threshold_pos (bias place : Nat) : 0 < threshold bias place := by
  unfold threshold
  omega

/-- How often 35 divides a number until at most 455 is left, and what is left. -/
def shrink (n : Nat) : Nat × Nat :=
  if 455 < n then
    let r := shrink (n / 35)
    (r.1 + 1, r.2)
  else (0, n)
termination_by n

/-- **The bias after a numeral**, from its value and how many characters there are then. -/
def adapt (delta count : Nat) (isFirst : Bool) : Nat :=
  let delta := if isFirst then delta / 700 else delta / 2
  let (times, rest) := shrink (delta + delta / count)
  36 * times + 36 * rest / (rest + 38)

def numeral (bias place n : Nat) : List Char :=
  let t := threshold bias place
  if n < t then [digit n]
  else digit (t + (n - t) % (36 - t)) :: numeral bias (place + 1) ((n - t) / (36 - t))
termination_by n
decreasing_by
  have := threshold_pos bias place
  have := Nat.div_le_self (n - threshold bias place) (36 - threshold bias place)
  omega

/-- What was written, and where the next numeral counts from. -/
structure Writing where
  output : List Char := []
  delta : Nat := 0
  bias : Nat := 72
  count : Nat
  isFirst : Bool := true

namespace Writing

def pass (point : Nat) (w : Writing) (n : Nat) : Writing :=
  if n < point then { w with delta := w.delta + 1 }
  else if n = point then
    { output := w.output ++ numeral w.bias 0 w.delta, delta := 0, bias := adapt w.delta (w.count + 1) w.isFirst,
      count := w.count + 1, isFirst := false }
  else w

/-- Writes the occurrences of each of the code points, which are in order; `next` is the least that may be written. -/
def points (l : List Nat) : Nat → List Nat → Writing → Writing
  | _, [], w => w
  | next, point :: rest, w =>
    let w := l.foldl (pass point) { w with delta := w.delta + (point - next) * (w.count + 1) }
    points l (point + 1) rest { w with delta := w.delta + 1 }

end Writing

def isAscii (c : Char) : Bool := decide (c.toNat < 128)

def encode (l : List Nat) : List Char :=
  let basic := (l.filter (· < 128)).map Char.ofNat
  let others := (l.filter (128 ≤ ·)).mergeSort.eraseDups
  basic ++ (if basic.isEmpty then [] else ['-']) ++ (Writing.points l 128 others { count := basic.length }).output

/-- What was read: the characters so far, the last code point, the place after the last one, and the bias. -/
structure Reading where
  output : List Nat
  point : Nat := 128
  place : Nat := 0
  bias : Nat := 72
  isFirst : Bool := true

namespace Reading

def advance (r : Reading) (delta : Nat) : Reading :=
  let count := r.output.length + 1
  let place := r.place + delta
  let point := r.point + place / count
  let place := place % count
  { output := r.output.take place ++ point :: r.output.drop place, point := point, place := place + 1,
    bias := adapt delta count r.isFirst, isFirst := false }

/-- Reads digit after digit: `value` is the numeral so far and `weight` that of its next digit. -/
def digits (r : Reading) (position value weight : Nat) : List Char → Option Reading
  | [] => if position = 0 then some r else none
  | c :: rest =>
    match digitValue? c with
    | none => none
    | some d =>
      let t := threshold r.bias position
      let value := value + d * weight
      if t ≤ d then r.digits (position + 1) value (weight * (36 - t)) rest
      else
        let r := r.advance value
        if 0x110000 ≤ r.point then none else r.digits 0 0 1 rest

end Reading

/-- What stands before the last hyphen and what stands after it; all stands after it if there is none. -/
def cut (l : List Char) : List Char × List Char :=
  let after := (l.reverse.takeWhile (· ≠ '-')).reverse
  (l.take (l.length - after.length - 1), after)

/-- **The code points with an ASCII form**, if the form is one; they need not be characters. -/
def decode? (l : List Char) : Option (List Nat) :=
  let (basic, numerals) := cut l
  (Reading.digits { output := basic.map Char.toNat } 0 0 1 numerals).map Reading.output

end Punycode
end Scaffold
