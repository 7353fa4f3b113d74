import LineSift.Double.Basic
import LineSift.Text.Number

/-!
# The shortest decimal text of a floating-point number

A finite number is written with the fewest digits that are read back as the same number; among
texts of that length the nearest is taken, and of two that are equally near the one that ends with
an even digit.  The numbers that are read back as `m * 2 ^ q` are those between the two middles to
its neighbours; the middles belong to them if `m` is even.
-/

namespace LineSift.Double

open Text (ofString)

/-- A positive quotient. -/
structure Ratio where
  num : Nat
  den : Nat

namespace Ratio

/-- The quotient `m * 2 ^ q`. -/
def binary (m : Nat) (q : Int) : Ratio :=
  if 0 ≤ q then ⟨m * twoTo q.toNat, 1⟩ else ⟨m, twoTo (-q).toNat⟩

/-- The quotient `d * 10 ^ e`. -/
def decimal (d : Nat) (e : Int) : Ratio :=
  if 0 ≤ e then ⟨d * tenTo e.toNat, 1⟩ else ⟨d, tenTo (-e).toNat⟩

/-- Whether a quotient is less than another one. -/
def less (a b : Ratio) : Bool := a.num * b.den < b.num * a.den

/-- Whether `a` is at most as far from `x` as `b`, for `a` below and `b` above. -/
def closerBelow (a x b : Ratio) : Ordering :=
  compare ((x.num * a.den - a.num * x.den) * b.den) ((b.num * x.den - x.num * b.den) * a.den)

/-- The whole part of `x / 10 ^ e`. -/
def floorAt (x : Ratio) (e : Int) : Nat :=
  if 0 ≤ e then x.num / (x.den * tenTo e.toNat) else x.num * tenTo (-e).toNat / x.den

end Ratio

/-- Decimal digits and the power of ten of the last one. -/
structure Digits where
  d : Nat
  e : Int
  deriving DecidableEq

/-- Whether a quotient is read back as `m * 2 ^ q`. -/
def readsBack (m : Nat) (q : Int) (x : Ratio) : Bool :=
  let low :=
    if m = twoTo 52 ∧ minExponent < q then Ratio.binary (4 * m - 1) (q - 2)
    else Ratio.binary (2 * m - 1) (q - 1)
  let high := Ratio.binary (2 * m + 1) (q - 1)
  if m % 2 = 0 then !x.less low && !high.less x else low.less x && x.less high

/-- The neighbour of `m * 2 ^ q` among the multiples of `10 ^ e` that is read back as it, the
nearer one if both are. -/
def onGrid (m : Nat) (q : Int) (e : Int) : Option Digits :=
  let x := Ratio.binary m q
  let d := x.floorAt e
  let below := Ratio.decimal d e
  let above := Ratio.decimal (d + 1) e
  let fits := readsBack m q
  match d ≠ 0 && fits below, fits above with
  | true, true =>
    match below.closerBelow x above with
    | .lt => some ⟨d, e⟩
    | .gt => some ⟨d + 1, e⟩
    | .eq => some ⟨d + d % 2, e⟩
  | true, false => some ⟨d, e⟩
  | false, true => some ⟨d + 1, e⟩
  | false, false => none

/-- The greatest power of ten that is at most `m * 2 ^ q`, looked for from an upper bound down. -/
def leading (x : Ratio) : Nat → Int → Int
  | 0, e => e
  | n + 1, e => if x.floorAt e = 0 then leading x n (e - 1) else e

/-- The first digits that are read back, looking at ever finer multiples. -/
def search (m : Nat) (q : Int) : Nat → Int → Option Digits
  | 0, _ => none
  | n + 1, e =>
    match onGrid m q e with
    | some d => some d
    | none => search m q n (e - 1)

/-- The shortest digits of `m * 2 ^ q`; seventeen are always enough. -/
def shortest (m : Nat) (q : Int) : Digits :=
  ((search m q 17 (leading (Ratio.binary m q) 700 310)).getD ⟨0, 0⟩)

/-- Digits without zeros at the end, of which there are at most `n`. -/
def dropZeros : Nat → Digits → Digits
  | 0, x => x
  | n + 1, x => if x.d ≠ 0 ∧ x.d % 10 = 0 then dropZeros n ⟨x.d / 10, x.e + 1⟩ else x

/-- The text of digits.  A point that falls within the first sixteen places, or within three places
before the first digit, is written where it falls; otherwise there is an exponent of two digits or
more. -/
def Digits.text (x : Digits) : Text :=
  let x := dropZeros 20 x
  let ds := Text.decimal x.d
  let point : Int := ds.length + x.e
  if -4 < point ∧ point ≤ 16 then
    if point ≤ 0 then ofString "0." ++ List.replicate (-point).toNat (.char '0') ++ ds
    else if (ds.length : Int) ≤ point then
      ds ++ List.replicate (point.toNat - ds.length) (.char '0') ++ ofString ".0"
    else ds.take point.toNat ++ ofString "." ++ ds.drop point.toNat
  else
    let fraction := ds.drop 1
    let exponent := point - 1
    ds.take 1 ++ (if fraction = [] then [] else .char '.' :: fraction) ++
      ofString (if exponent < 0 then "e-" else "e+") ++
      Text.padded 2 (Text.decimal exponent.natAbs)

/-- The text of a number. -/
def text : Double → Text
  | .notANumber => "nan"
  | .infinite negative => ofString (if negative then "-inf" else "inf")
  | .finite negative m q =>
    ofString (if negative then "-" else "") ++
      if m = 0 then ofString "0.0" else (shortest m q).text

end LineSift.Double
