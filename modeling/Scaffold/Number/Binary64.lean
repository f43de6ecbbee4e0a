/-!
# Number.Binary64 — double-precision numbers as exact values

A finite number is a significand times a power of two, kept in its one normal form: the significand is below 2⁵³, and
at least 2⁵² unless the exponent is the least one.  `ofRatio` rounds a quotient to the nearest number, a tie to the
even significand; everything is exact arithmetic on natural numbers.
-/
namespace Scaffold

/-- **A double-precision number**: `significand · 2 ^ exponent` with a sign, an infinity, or not a number. -/
inductive Binary64 where
  | finite (negative : Bool) (significand : Nat) (exponent : Int)
  | infinite (negative : Bool)
  | nan
deriving DecidableEq, Repr

namespace Binary64

def minExponent : Int := -1074

def maxExponent : Int := 971

def leastNormal : Nat := 4503599627370496

def zero (negative : Bool) : Binary64 := .finite negative 0 minExponent

/-- `base ^ k` as a quotient of natural numbers, for any integer `k`. -/
def power (base : Nat) (k : Int) : Nat × Nat := (Nat.pow base k.toNat, Nat.pow base (-k).toNat)

/-- **The nearest integer to a quotient**, a tie going to the even one. -/
def roundEven (num den : Nat) : Nat :=
  let q := num / den
  let r := 2 * (num % den)
  if r < den || (r == den && q % 2 == 0) then q else q + 1

/-- The exponent at which `num / den` has a significand of 53 bits, or the least one. -/
def exponentOf (num den : Nat) : Int :=
  let e : Int := (num.log2 : Int) - den.log2 - 52
  let p := power 2 e
  let e := if num * p.2 / (den * p.1) < leastNormal then e - 1 else e
  if e < minExponent then minExponent else e

def ofRatio (negative : Bool) (num den : Nat) : Binary64 :=
  if num = 0 then zero negative
  else
    let e := exponentOf num den
    let p := power 2 e
    let m := roundEven (num * p.2) (den * p.1)
    let (m, e) := if m = 2 * leastNormal then (leastNormal, e + 1) else (m, e)
    if maxExponent < e then .infinite negative else .finite negative m e

/-- **The number nearest to `digits · 10 ^ exponent`.**  Far outside the range no power is computed. -/
def ofDecimal (negative : Bool) (digits : Nat) (exponent : Int) : Binary64 :=
  if digits = 0 then zero negative
  else
    let size : Int := (Nat.toDigits 10 digits).length + exponent
    if 310 < size then .infinite negative
    else if size < -330 then zero negative
    else
      let p := power 10 exponent
      ofRatio negative (digits * p.1) p.2

def ofInt : Int → Binary64
  | .ofNat n => ofDecimal false n 0
  | .negSucc n => ofDecimal true (n + 1) 0

def isZero : Binary64 → Bool
  | .finite _ m _ => m == 0
  | _ => false

def toInt? : Binary64 → Option Int
  | .finite negative m e =>
    let p := power 2 e
    if m * p.1 % p.2 = 0 then
      let n : Int := (m * p.1 / p.2 : Nat)
      some (if negative then -n else n)
    else none
  | _ => none

end Binary64
end Scaffold
