import LineSift.Text.Basic

/-!
# The tokens of a pattern

A pattern is read token by token: a backslash belongs to the code point after it, and every other
code point stands alone.
-/

namespace LineSift.Regex

/-- A token of a pattern. -/
inductive Token where
  /-- A code point on its own. -/
  | plain (c : CodePoint)
  /-- A backslash with the code point after it. -/
  | escaped (c : CodePoint)
  /-- A backslash at the end of the pattern. -/
  | dangling
  deriving DecidableEq

namespace Token

/-- What a token looks like in the pattern. -/
def text : Token → Text
  | .plain c => [c]
  | .escaped c => [.char '\\', c]
  | .dangling => [.char '\\']

/-- How much of the pattern a token takes. -/
def width (t : Token) : Nat := t.text.length

/-- A code point that stands alone. -/
def plain? : Token → Option CodePoint
  | .plain c => some c
  | _ => none

end Token

/-- The tokens of a pattern. -/
def tokens : Text → List Token
  | [] => []
  | [c] => [if c = .char '\\' then .dangling else .plain c]
  | c :: d :: t =>
    if c = .char '\\' then .escaped d :: tokens t else .plain c :: tokens (d :: t)

end LineSift.Regex
