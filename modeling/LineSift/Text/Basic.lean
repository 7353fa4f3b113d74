/-!
# Text over code points

Log lines, rules and patterns are texts: lists of code points.  A code point is a Unicode
scalar value or a surrogate that stands alone.  The second kind cannot be read from a
well-formed file, but a quoted value can spell it as an escape, and then it is carried,
compared and shown like any other.
-/

namespace LineSift

/-- One code point: a scalar value, or the surrogate `U+D800 + n` on its own. -/
inductive CodePoint where
  | char (c : Char)
  | lone (n : Fin 2048)
  deriving DecidableEq

namespace CodePoint

instance : Inhabited CodePoint := ⟨.char ' '⟩

/-- The number of a code point, below `0x110000`. -/
def toNat : CodePoint → Nat
  | .char c => c.toNat
  | .lone n => 0xD800 + n.val

/-- The code point with a given number; none from `0x110000` on. -/
def ofNat? (n : Nat) : Option CodePoint :=
  if h : n.isValidChar then
    some (.char (Char.ofNatAux n h))
  else if h : 0xD800 ≤ n ∧ n < 0xE000 then
    some (.lone ⟨n - 0xD800, by omega⟩)
  else
    none

/-- The code point with a given number, or U+FFFD where there is none. -/
def ofNat (n : Nat) : CodePoint :=
  (ofNat? n).getD (.char '\uFFFD')

/-- The replacement character U+FFFD. -/
def replacement : CodePoint := .char '\uFFFD'

instance : Coe Char CodePoint := ⟨.char⟩

/-- The numbers are ordered as the code points are. -/
instance : LT CodePoint := ⟨fun a b => a.toNat < b.toNat⟩

instance (a b : CodePoint) : Decidable (a < b) :=
  inferInstanceAs (Decidable (a.toNat < b.toNat))

/-- Whether the number of a code point lies between two bounds, both included. -/
def inRange (lo hi : Nat) (c : CodePoint) : Bool :=
  lo ≤ c.toNat && c.toNat ≤ hi

/-- An ASCII decimal digit. -/
def isAsciiDigit (c : CodePoint) : Bool := c.inRange 0x30 0x39

/-- An ASCII letter or decimal digit. -/
def isAsciiAlnum (c : CodePoint) : Bool :=
  c.isAsciiDigit || c.inRange 0x41 0x5A || c.inRange 0x61 0x7A

/-- An ASCII letter. -/
def isAsciiAlpha (c : CodePoint) : Bool :=
  c.inRange 0x41 0x5A || c.inRange 0x61 0x7A

/-- An octal digit. -/
def isOctDigit (c : CodePoint) : Bool := c.inRange 0x30 0x37

/-- A hexadecimal digit of either case, in ASCII. -/
def isHexDigit (c : CodePoint) : Bool :=
  c.isAsciiDigit || c.inRange 0x41 0x46 || c.inRange 0x61 0x66

/-- The value of an ASCII digit in a base up to sixteen; other code points count as zero. -/
def digitValue (c : CodePoint) : Nat :=
  let n := c.toNat
  if 0x30 ≤ n ∧ n ≤ 0x39 then n - 0x30
  else if 0x41 ≤ n ∧ n ≤ 0x46 then n - 0x41 + 10
  else if 0x61 ≤ n ∧ n ≤ 0x66 then n - 0x61 + 10
  else 0

theorem toNat_lt (c : CodePoint) : c.toNat < 0x110000 := by
  cases c with
  | char c =>
    have h := c.valid
    simp only [toNat, Char.toNat]
    rcases h with h | ⟨_, h⟩
    · exact Nat.lt_trans h (by decide)
    · exact h
  | lone n => simp only [toNat]; omega

end CodePoint

/-- A text is the list of its code points. -/
abbrev Text := List CodePoint

namespace Text

/-- The code points of a string, all of them scalar values. -/
def ofString (s : String) : Text := s.toList.map .char

instance : Coe String Text := ⟨ofString⟩

/-- The string of a text, with U+FFFD for a surrogate that stands alone. -/
def toString (t : Text) : String :=
  String.ofList (t.map fun
    | .char c => c
    | .lone _ => '\uFFFD')

/-- Whether every code point is a scalar value, so that the text is a string. -/
def isScalar (t : Text) : Bool :=
  t.all fun
    | .char _ => true
    | .lone _ => false

/-- The number written by ASCII digits in a base up to sixteen, most significant first. -/
def digitsValue (base : Nat) (t : Text) : Nat :=
  t.foldl (fun n c => base * n + c.digitValue) 0

/-- Texts are ordered by their first difference; a beginning comes before the whole. -/
def le : Text → Text → Bool
  | [], _ => true
  | _ :: _, [] => false
  | a :: s, b :: t => a.toNat < b.toNat || (a == b && le s t)

/-- A list of texts in order with one more text, unless it is there already. -/
def insertOnce (t : Text) : List Text → List Text
  | [] => [t]
  | s :: rest =>
    if t = s then s :: rest
    else if le t s then t :: s :: rest
    else s :: insertOnce t rest

/-- The texts of a list in order, each of them once. -/
def inOrder (ts : List Text) : List Text := ts.foldr insertOnce []

/-- Puts one more thing in front of those that a reader has read; the rest of the text stays. -/
def onto {f : Type → Type} [Functor f] {α : Type} (a : α) (r : f (List α × Text)) :
    f (List α × Text) :=
  (fun (as, rest) => (a :: as, rest)) <$> r

section Onto

variable {α ε : Type} (a : α) (as : List α) (rest : Text)

@[simp] theorem onto_none : onto a (none : Option (List α × Text)) = none := rfl

@[simp] theorem onto_some : onto a (some (as, rest)) = some (a :: as, rest) := rfl

@[simp] theorem onto_error (e : ε) : onto a (.error e : Except ε (List α × Text)) = .error e := rfl

@[simp] theorem onto_ok :
    onto a (.ok (as, rest) : Except ε (List α × Text)) = .ok (a :: as, rest) := rfl

end Onto

/-- The parts of a text list with a separator between neighbours. -/
def join (sep : Text) : List Text → Text
  | [] => []
  | [t] => t
  | t :: ts => t ++ sep ++ join sep ts

end Text

end LineSift
