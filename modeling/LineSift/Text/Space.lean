import LineSift.Text.Basic

/-!
# White space

The white space of Unicode together with the four ASCII information separators.  Zero-width
characters are not among it.
-/

namespace LineSift

namespace CodePoint

/-- A white space code point. -/
def isSpace (c : CodePoint) : Bool :=
  c.inRange 0x09 0x0D || c.inRange 0x1C 0x20 || c.toNat == 0x85 || c.toNat == 0xA0 ||
    c.toNat == 0x1680 || c.inRange 0x2000 0x200A || c.inRange 0x2028 0x2029 ||
    c.toNat == 0x202F || c.toNat == 0x205F || c.toNat == 0x3000

/-- White space within ASCII, without the information separators. -/
def isAsciiSpace (c : CodePoint) : Bool :=
  c.inRange 0x09 0x0D || c.toNat == 0x20

/-- A space or a tab. -/
def isBlank (c : CodePoint) : Bool :=
  c == .char ' ' || c == .char '\t'

/-- White space between the tokens of a header, or of a value in JSON. -/
def isLayout (c : CodePoint) : Bool :=
  c == .char ' ' || c == .char '\t' || c == .char '\n' || c == .char '\r'

theorem isLayout_iff {c : CodePoint} :
    c.isLayout = true ↔ c = .char ' ' ∨ c = .char '\t' ∨ c = .char '\n' ∨ c = .char '\r' := by
  simp [isLayout, or_assoc]

end CodePoint

namespace Text

/-- A text without the white space at its beginning. -/
def stripLeft (t : Text) : Text := t.dropWhile CodePoint.isSpace

/-- A text without the white space at its end. -/
def stripRight (t : Text) : Text := (stripLeft t.reverse).reverse

/-- A text without the white space around it. -/
def strip (t : Text) : Text := stripRight (stripLeft t)

end Text

end LineSift
