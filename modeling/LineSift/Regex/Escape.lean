import LineSift.Text.Basic

/-!
# Texts as patterns for themselves

Escaping turns a text into a pattern that matches that text alone.
-/

namespace LineSift.Regex

/-- A code point that has a meaning of its own in some pattern. -/
def isSpecial (c : CodePoint) : Bool :=
  "()[]\x7b\x7d?*+-|^$\\.&~# \t\n\r\x0b\x0c".toList.any fun d => c == .char d

/-- A pattern for one code point. -/
def escapeOne (c : CodePoint) : Text := if isSpecial c then [.char '\\', c] else [c]

/-- A pattern for a text. -/
def quote (t : Text) : Text := t.flatMap escapeOne

end LineSift.Regex
