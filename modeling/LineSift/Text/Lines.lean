import LineSift.Text.Basic

/-!
# Lines, columns and tab stops

A line ends at a carriage return, a line feed or the two together.  Positions in messages count
lines by line feeds alone, and both lines and columns from one.
-/

namespace LineSift.Text

/-- The lines of a text, without their ends.  A text that ends with a line end has an empty last
line, and the empty text is one empty line. -/
def lines : Text → List Text
  | [] => [[]]
  | .char '\r' :: .char '\n' :: t => [] :: lines t
  | c :: t =>
    if c = .char '\r' ∨ c = .char '\n' then [] :: lines t
    else (lines t).modifyHead (c :: ·)

/-- A text with every carriage return, alone or before a line feed, read as a line feed. -/
def unifyLineEnds : Text → Text
  | [] => []
  | .char '\r' :: .char '\n' :: t => .char '\n' :: unifyLineEnds t
  | c :: t => (if c = .char '\r' then .char '\n' else c) :: unifyLineEnds t

/-- The lines of a text, each with the line feed that ends it; what follows the last line feed is
a line too unless it is empty. -/
def linesWithEnds : Text → List Text
  | [] => []
  | c :: t =>
    if c = .char '\n' then [c] :: linesWithEnds t
    else match linesWithEnds t with
      | [] => [[c]]
      | l :: ls => (c :: l) :: ls

/-- Replaces tabs by spaces up to the next multiple of eight; `col` is the column reached. -/
def expandTabsFrom (col : Nat) : Text → Text
  | [] => []
  | c :: t =>
    if c = .char '\t' then
      let n := 8 - col % 8
      List.replicate n (.char ' ') ++ expandTabsFrom (col + n) t
    else if c = .char '\n' ∨ c = .char '\r' then c :: expandTabsFrom 0 t
    else c :: expandTabsFrom (col + 1) t

/-- A text with its tabs replaced by spaces. -/
def expandTabs (t : Text) : Text := expandTabsFrom 0 t

/-- The line on which the code point at an index stands, from one. -/
def lineAt (t : Text) (i : Nat) : Nat :=
  (t.take i).count (.char '\n') + 1

/-- The column at which the code point at an index stands, from one. -/
def columnAt (t : Text) (i : Nat) : Nat :=
  ((t.take i).reverse.takeWhile (· != .char '\n')).length + 1

end LineSift.Text
