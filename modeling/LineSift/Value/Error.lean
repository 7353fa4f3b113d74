import LineSift.Kind
import LineSift.Text.Quoted

/-!
# What can be wrong with a quoted value
-/

namespace LineSift.Value

open Text (ofString)

/-- Why a value cannot be unquoted.  Each cause names the text as it was written. -/
inductive Error where
  /-- The value is a single code point, or its quotes do not match. -/
  | malformed (s : Text)
  /-- A double-quoted value runs over a line break. -/
  | lineBreak (s : Text)
  /-- A double quote inside a double-quoted value is not escaped. -/
  | bareQuote (s : Text)
  /-- An octal escape stands for a number above 255. -/
  | octalRange (s : Text)
  /-- A backslash is followed by something that is no escape. -/
  | badEscape (esc s : Text)
  /-- A hexadecimal escape stands for a number that is no code point. -/
  | noCodePoint
  /-- A hexadecimal escape stands for a number above the range of machine integers. -/
  | hugeCodePoint
  /-- A list is shorter than its two brackets. -/
  | shortList (s : Text)
  /-- A list is not enclosed in brackets. -/
  | notList (s : Text)
  /-- A list has an element without any text. -/
  | emptyElement (s : Text)
  deriving DecidableEq

/-- The wording of each cause. -/
def Error.message : Error → Text
  | .malformed s => ofString "invalid quoted string " ++ s.shown
  | .lineBreak s => ofString "newline in quoted string " ++ s.shown
  | .bareQuote s => ofString "unescaped quote in string " ++ s.shown
  | .octalRange s => ofString "octal escape out of range in " ++ s.shown
  | .badEscape esc s => ofString "invalid escape sequence \\" ++ esc ++ ofString " in " ++ s.shown
  | .noCodePoint => ofString "chr() arg not in range(0x110000)"
  | .hugeCodePoint => ofString "Python int too large to convert to C int"
  | .shortList s => ofString "string " ++ s.shown ++ ofString " is too short for a list"
  | .notList s => ofString "string " ++ s.shown ++ ofString " is not a list"
  | .emptyElement s => ofString "empty element in list " ++ s.shown

/-- The kind of each cause. -/
def Error.kind : Error → Kind
  | .noCodePoint => .badValue
  | .hugeCodePoint => .overflow
  | _ => .parsing

end LineSift.Value
