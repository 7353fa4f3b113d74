import LineSift.Text.Letter
import LineSift.Text.Space

/-!
# Numbers as text

Decimal numerals are written without leading zeros, and read more freely: white space around,
a sign, digits of any script and single underscores between digits.
-/

namespace LineSift.Text

/-- The digit for a number below sixteen, in lower case. -/
def digit (n : Nat) : CodePoint := .char (Nat.digitChar n)

/-- The numeral of a number in a base from two to sixteen. -/
def numeral (base n : Nat) : Text :=
  if _h : n < base ∨ base < 2 then [digit n]
  else numeral base (n / base) ++ [digit (n % base)]
termination_by n
decreasing_by exact Nat.div_lt_self (by omega) (by omega)

/-- The decimal numeral of a natural number. -/
def decimal (n : Nat) : Text := numeral 10 n

/-- The decimal numeral of an integer. -/
def decimalInt : Int → Text
  | .ofNat n => decimal n
  | .negSucc n => .char '-' :: decimal (n + 1)

/-- A numeral with zeros in front up to a given width. -/
def padded (width : Nat) (t : Text) : Text :=
  List.replicate (width - t.length) (.char '0') ++ t

/-- The hexadecimal numeral of at least the given width. -/
def hex (width n : Nat) : Text := padded width (numeral 16 n)

/-- Reads digits of any script with single underscores between them, after the value `n`. -/
def readDecimalFrom (n : Nat) : Text → Option Nat
  | [] => some n
  | [c] => c.decimalValue?.map (10 * n + ·)
  | .char '_' :: d :: t => d.decimalValue?.bind fun v => readDecimalFrom (10 * n + v) t
  | c :: t => c.decimalValue?.bind fun v => readDecimalFrom (10 * n + v) t

/-- Reads a number that begins with a digit. -/
def readNatural? : Text → Option Nat
  | [] => none
  | c :: t => c.decimalValue?.bind fun v => readDecimalFrom v t

/-- How many digits a numeral has, underscores aside. -/
def digitCount (t : Text) : Nat := t.countP fun c => c.decimalValue?.isSome

/-- Reads an integer, with white space around it and a sign before it. -/
def readInt? (t : Text) : Option Int :=
  match t.strip with
  | .char '-' :: u => (readNatural? u).map fun n => -(n : Int)
  | .char '+' :: u => (readNatural? u).map Int.ofNat
  | u => (readNatural? u).map Int.ofNat

end LineSift.Text
