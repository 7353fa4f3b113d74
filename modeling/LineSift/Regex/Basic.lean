import LineSift.Regex.Matcher
import LineSift.Regex.Parser

/-!
# Compiled patterns

A compiled pattern keeps the text it was compiled from.  A text is matched over its full span if
the first match found, at the leftmost place and in the order of the alternatives, happens to
begin at the beginning and to end at the end; no other match is tried.

Groups can be nested to any depth.  An interpreter that compiles each group by a call of its own
gives up at a limit of its stack; this limit is not modelled.
-/

namespace LineSift

/-- A compiled pattern. -/
structure Regex where
  /-- The pattern as it was written. -/
  pattern : Text
  /-- What it means. -/
  node : Regex.Node
  deriving DecidableEq

namespace Regex

/-- Compiles a pattern. -/
def compile (pattern : Text) : Except Error Regex :=
  (parse pattern).map fun node => { pattern, node }

/-- The leftmost match in a text, as its beginning and its end. -/
def search (r : Regex) (t : Text) : Option (Nat × Nat) := r.node.search t.toArray

/-- Whether a text begins with a match. -/
def matchesStart (r : Regex) (t : Text) : Bool := (r.node.matchFrom t.toArray 0).isSome

/-- Whether the leftmost match in a text is the whole text. -/
def matchesSpan (r : Regex) (t : Text) : Bool := r.search t == some (0, t.length)

/-- How a text fails to be matched over its full span. -/
inductive SpanFailure where
  /-- There is no match. -/
  | noMatch (pattern text : Text)
  /-- The match does not begin at the beginning. -/
  | lateStart (pattern text found : Text)
  /-- The match does not end at the end. -/
  | earlyEnd (pattern text found : Text)
  deriving DecidableEq

open Text (ofString) in
/-- The wording of each failure. -/
def SpanFailure.message : SpanFailure → Text
  | .noMatch pattern text =>
    ofString "pattern " ++ pattern.shown ++ ofString " does not match " ++ text.shown
  | .lateStart pattern text found =>
    ofString "pattern " ++ pattern.shown ++ ofString " does not match " ++ text.shown ++
      ofString " at the beginning, match: " ++ found.shown
  | .earlyEnd pattern text found =>
    ofString "pattern " ++ pattern.shown ++ ofString " does not match " ++ text.shown ++
      ofString " until the end, match: " ++ found.shown

/-- How a text fails to be matched over its full span, if it does. -/
def spanFailure? (r : Regex) (t : Text) : Option SpanFailure :=
  match r.search t with
  | none => some (.noMatch r.pattern t)
  | some (start, stop) =>
    let found := (t.drop start).take (stop - start)
    if start ≠ 0 then some (.lateStart r.pattern t found)
    else if stop ≠ t.length then some (.earlyEnd r.pattern t found)
    else none

end Regex

end LineSift
