import Scaffold.Number.Binary64
/-!
# Number.Shortest — the fewest digits that read back

`shortest` finds, for a positive number `m · 2 ^ q`, the decimal with the fewest digits among those that round to it,
and of these the nearest to it.  `Binary64.text` writes it: positionally when the leading digit stands between the
fourth place after the point and the sixteenth before it, otherwise with an exponent of at least two digits; a whole
number keeps `.0`.
-/
namespace Scaffold
namespace Binary64

/-- The decimals that round to a number: between two ends over one denominator, the ends included or not. -/
structure Basin where
  low : Nat
  high : Nat
  den : Nat
  closed : Bool

/-- **The basin of `m · 2 ^ q`**: half way to either neighbour, the ends included when `m` is even.  Below a power of
two the neighbour is half as far. -/
def basin (m : Nat) (q : Int) : Basin :=
  let p := power 2 (q - 2)
  let under := if m = leastNormal ∧ minExponent < q then 1 else 2
  ⟨(4 * m - under) * p.1, (4 * m + 2) * p.1, p.2, m % 2 == 0⟩

def Basin.holds (b : Basin) (s : Nat) (k : Int) : Bool :=
  let p := power 10 k
  let x := s * p.1 * b.den
  if b.closed then decide (b.low * p.2 ≤ x) && decide (x ≤ b.high * p.2)
  else decide (b.low * p.2 < x) && decide (x < b.high * p.2)

/-- The number of places before the point: `10 ^ (k - 1) ≤ num / den < 10 ^ k`. -/
def magnitude (num den : Nat) : Int :=
  let j : Int := ((Nat.toDigits 10 den).length : Int) - (Nat.toDigits 10 num).length
  let p := power 10 j
  if den * p.2 ≤ num * p.1 then 1 - j else -j

/-- The point of the grid `10 ^ k` that lies in the basin and is nearest to `num / den`. -/
def gridPoint? (b : Basin) (num den : Nat) (k : Int) : Option Nat :=
  let p := power 10 k
  let s := num * p.2 / (den * p.1)
  let twice := 2 * (num * p.2 % (den * p.1))
  match b.holds s k, b.holds (s + 1) k with
  | true, true =>
    some (if twice < den * p.1 || (twice == den * p.1 && s % 2 == 0) then s else s + 1)
  | true, false => some s
  | false, true => some (s + 1)
  | false, false => none

/-- **The shortest decimal of `m · 2 ^ q`**, as digits and the power of ten of the last one. -/
def shortest (m : Nat) (q : Int) : Nat × Int :=
  let p := power 2 q
  let top := magnitude (m * p.1) p.2
  let b := basin m q
  match (List.range 17).findSome? (fun n =>
      let k := top - (n + 1 : Nat)
      (gridPoint? b (m * p.1) p.2 k).map (fun s => (s, k))) with
  | some d => d
  | none => (m * p.1, 0)

/-- The digits without their final zeros; at least one is left. -/
def stripZeros (l : List Char) : List Char :=
  match (l.reverse.dropWhile (· == '0')).reverse with
  | [] => ['0']
  | d => d

/-- Digits with a point after the first `places` of them, filled with zeros where there are none. -/
def positional (digits : List Char) (places : Int) : List Char :=
  if places ≤ 0 then "0.".toList ++ List.replicate (-places).toNat '0' ++ digits
  else
    let n := places.toNat
    if digits.length ≤ n then digits ++ List.replicate (n - digits.length) '0' ++ ".0".toList
    else digits.take n ++ '.' :: digits.drop n

/-- The sign and at least two digits of an exponent. -/
def exponentText (e : Int) : List Char :=
  let d := Nat.toDigits 10 e.natAbs
  (if e < 0 then '-' else '+') :: (if d.length < 2 then '0' :: d else d)

def scientific (digits : List Char) (e : Int) : List Char :=
  let rest := digits.drop 1
  digits.take 1 ++ (if rest.isEmpty then [] else '.' :: rest) ++ 'e' :: exponentText e

def magnitudeText (m : Nat) (q : Int) : List Char :=
  if m = 0 then "0.0".toList
  else
    let (s, k) := shortest m q
    let all := Nat.toDigits 10 s
    let places : Int := all.length + k
    let digits := stripZeros all
    if places ≤ -4 || 16 < places then scientific digits (places - 1) else positional digits places

def text : Binary64 → List Char
  | .finite negative m q => (if negative then ['-'] else []) ++ magnitudeText m q
  | .infinite negative => (if negative then "-inf" else "inf").toList
  | .nan => "nan".toList

end Binary64
end Scaffold
