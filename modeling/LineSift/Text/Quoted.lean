import LineSift.Text.Number
import LineSift.Text.Printable

/-!
# Texts as messages show them

A text in a message stands in single quotes, or in double quotes when it holds a single quote
and no double quote.  A backslash and the quote used are preceded by a backslash, and code
points that are not printable are written as escapes.
-/

namespace LineSift.Text

/-- The quote put around a text. -/
def quoteFor (t : Text) : CodePoint :=
  if t.contains (.char '\'') && !t.contains (.char '"') then .char '"' else .char '\''

/-- The escape of a code point that is not printable, as short as its number allows. -/
def escaped (c : CodePoint) : Text :=
  let n := c.toNat
  if n = 0x09 then "\\t"
  else if n = 0x0A then "\\n"
  else if n = 0x0D then "\\r"
  else if n < 0x100 then ofString "\\x" ++ hex 2 n
  else if n < 0x10000 then ofString "\\u" ++ hex 4 n
  else ofString "\\U" ++ hex 8 n

/-- A code point between quotes. -/
def shownWithin (quote c : CodePoint) : Text :=
  if c = quote ∨ c = .char '\\' then [.char '\\', c]
  else if c.isPrintable then [c]
  else escaped c

/-- A text as messages show it. -/
def shown (t : Text) : Text :=
  let quote := quoteFor t
  quote :: t.flatMap (shownWithin quote) ++ [quote]

end LineSift.Text
