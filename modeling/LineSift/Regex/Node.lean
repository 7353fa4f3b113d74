import LineSift.Text.Case
import LineSift.Text.Letter
import LineSift.Text.Space

/-!
# Regular expressions as trees

A tree says what a pattern means once its flags are resolved: which code points a single position
admits, how parts are repeated, what is remembered and what is looked at without being consumed.
-/

namespace LineSift.Regex

/-- How the case of letters counts in a comparison. -/
inductive CaseMode where
  /-- Letters of different case differ. -/
  | exact
  /-- ASCII letters agree up to case. -/
  | ascii
  /-- All letters agree up to case. -/
  | full
  deriving DecidableEq

/-- The classes of code points that have an escape of their own. -/
inductive Category where
  | digit
  | space
  | word
  deriving DecidableEq

/-- Whether a code point is in a class, within ASCII only or in all of Unicode. -/
def Category.test (asciiOnly : Bool) (c : CodePoint) : Category → Bool
  | .digit => if asciiOnly then c.isAsciiDigit else c.isDecimal
  | .space => if asciiOnly then c.isAsciiSpace else c.isSpace
  | .word => if asciiOnly then c.isAsciiAlnum || c == .char '_' else c.isWord

/-- One member of a set of code points. -/
inductive SetItem where
  | single (c : CodePoint)
  | range (lo hi : CodePoint)
  | category (kind : Category) (asciiOnly negated : Bool)
  deriving DecidableEq

/-- The numbers of the code points that agree with `c` where ASCII letters agree up to case. -/
def asciiVariants (c : CodePoint) : List Nat :=
  let n := c.asciiLower.toNat
  if 0x61 ≤ n ∧ n ≤ 0x7A then [n, n - 0x20] else [n]

/-- Whether a member of a set admits a code point. -/
def SetItem.test (mode : CaseMode) (c : CodePoint) : SetItem → Bool
  | .single d =>
    match mode with
    | .exact => c == d
    | .ascii => c.asciiLower == d.asciiLower
    | .full => c.caseKey == d.caseKey
  | .range lo hi =>
    match mode with
    | .exact => c.inRange lo.toNat hi.toNat
    | .ascii => (asciiVariants c).any fun n => lo.toNat ≤ n && n ≤ hi.toNat
    | .full => c.caseVariants.any fun n => lo.toNat ≤ n && n ≤ hi.toNat
  | .category k asciiOnly negated => k.test asciiOnly c != negated

/-- A condition on one code point: it is among the members, or it is not. -/
structure CharTest where
  items : List SetItem
  negated : Bool
  mode : CaseMode
  deriving DecidableEq

namespace CharTest

/-- Whether a condition admits a code point. -/
def test (t : CharTest) (c : CodePoint) : Bool :=
  (t.items.any (·.test t.mode c)) != t.negated

/-- Admits one code point, up to the case mode. -/
def literal (mode : CaseMode) (c : CodePoint) : CharTest := ⟨[.single c], false, mode⟩

/-- Admits every code point. -/
def all : CharTest := ⟨[], true, .exact⟩

/-- Admits every code point but the line feed. -/
def withinLine : CharTest := ⟨[.single (.char '\n')], true, .exact⟩

/-- Admits the code points of a class, or all others. -/
def ofCategory (k : Category) (asciiOnly negated : Bool) : CharTest :=
  ⟨[.category k asciiOnly negated], false, .exact⟩

end CharTest

/-- Conditions on a place between code points. -/
inductive Anchor where
  /-- The beginning of the text. -/
  | textStart
  /-- The end of the text. -/
  | textEnd
  /-- The end of the text, or just before a line feed that ends it. -/
  | lastLineEnd
  /-- The beginning of a line. -/
  | lineStart
  /-- The end of a line. -/
  | lineEnd
  /-- A place with a word on exactly one side; `asciiOnly` restricts words to ASCII. -/
  | boundary (asciiOnly : Bool)
  /-- A place with words on both sides or on neither; an empty text has none. -/
  | noBoundary (asciiOnly : Bool)
  deriving DecidableEq

/-- Which number of repetitions is tried first, and whether the others are tried at all. -/
inductive Greed where
  | greedy
  | lazy
  | possessive
  deriving DecidableEq

/-- A regular expression. -/
inductive Node where
  /-- Matches without consuming anything. -/
  | empty
  /-- Matches one code point. -/
  | char (t : CharTest)
  /-- Matches at certain places. -/
  | anchor (a : Anchor)
  /-- Matches one part and then the other. -/
  | seq (first second : Node)
  /-- Matches the first part or, failing that, the second. -/
  | alt (first second : Node)
  /-- Matches a part and remembers what it consumed. -/
  | group (index : Nat) (body : Node)
  /-- Repeats one code point from `lo` to `hi` times, without end if `hi` is missing. -/
  | charRun (greed : Greed) (lo : Nat) (hi : Option Nat) (t : CharTest)
  /-- Repeats a part from `lo` to `hi` times, without end if `hi` is missing. -/
  | repeated (greed : Greed) (lo : Nat) (hi : Option Nat) (body : Node)
  /-- Matches where the part matches next, or where it does not. -/
  | ahead (negated : Bool) (body : Node)
  /-- Matches where the part matches the `width` code points before, or where it does not. -/
  | behind (negated : Bool) (width : Nat) (body : Node)
  /-- Matches what a group remembered. -/
  | backref (index : Nat) (mode : CaseMode)
  /-- Matches one of two parts, depending on whether a group remembers anything. -/
  | cond (index : Nat) (yes no : Node)
  /-- Matches a part as it matches first, and never comes back to it. -/
  | atomic (body : Node)
  deriving DecidableEq

/-- The parts one after the other. -/
def Node.ofList : List Node → Node
  | [] => .empty
  | [n] => n
  | n :: ns => .seq n (ofList ns)

/-- The parts as alternatives, in order. -/
def Node.anyOf : Node → List Node → Node
  | n, [] => n
  | n, m :: ms => .alt n (anyOf m ms)

end LineSift.Regex
