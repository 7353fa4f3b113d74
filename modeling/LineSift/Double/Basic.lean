/-!
# Floating-point numbers of double precision

A finite number is `m * 2 ^ q` with a sign.  Among the ways of writing it, `m < 2 ^ 53` and
`-1074 ≤ q` hold, and `q` is as small as that allows.  A decimal number is read as the nearest such
number; of two that are equally near the one with even `m` is taken.  All of it is done in exact
arithmetic.
-/

namespace LineSift

/-- A number of double precision. -/
inductive Double where
  | finite (negative : Bool) (m : Nat) (q : Int)
  | infinite (negative : Bool)
  | notANumber
  deriving DecidableEq

namespace Double

/-- The least exponent. -/
def minExponent : Int := -1074

/-- The greatest exponent. -/
def maxExponent : Int := 971

/-- A power of two. -/
def twoTo (n : Nat) : Nat := Nat.pow 2 n

/-- A power of ten. -/
def tenTo (n : Nat) : Nat := Nat.pow 10 n

/-- The whole number nearest to a quotient, an even one if two are. -/
def roundDiv (num den : Nat) : Nat :=
  let m := num / den
  let r := 2 * (num % den)
  if r < den then m
  else if den < r then m + 1
  else m + m % 2

/-- The whole number nearest to `num / den / 2 ^ q`. -/
def scaled (num den : Nat) (q : Int) : Nat :=
  if 0 ≤ q then roundDiv num (den * twoTo q.toNat) else roundDiv (num * twoTo (-q).toNat) den

/-- The exponent that leaves 53 binary digits before the point of a positive quotient, or the least
exponent if that is greater. -/
def exponentFor (num den : Nat) : Int :=
  let k : Int := (num.log2 : Int) - (den.log2 : Int)
  let atLeast := if 0 ≤ k then den * twoTo k.toNat ≤ num else den ≤ num * twoTo (-k).toNat
  max ((if atLeast then k else k - 1) - 52) minExponent

/-- The number nearest to a quotient. -/
def ofRatio (negative : Bool) (num den : Nat) : Double :=
  if num = 0 then .finite negative 0 minExponent
  else
    let q := exponentFor num den
    let m := scaled num den q
    let (m, q) := if m = twoTo 53 then (twoTo 52, q + 1) else (m, q)
    if maxExponent < q then .infinite negative else .finite negative m q

/-- The number nearest to `d * 10 ^ e`, where `d` has the given number of digits.  A magnitude that
is out of reach in either direction is not computed. -/
def ofDecimal (negative : Bool) (d digits : Nat) (e : Int) : Double :=
  if d = 0 ∨ (digits : Int) + e < -400 then .finite negative 0 minExponent
  else if 400 + (digits : Int) < (digits : Int) + e then .infinite negative
  else if 0 ≤ e then ofRatio negative (d * tenTo e.toNat) 1
  else ofRatio negative d (tenTo (-e).toNat)

end Double

end LineSift
