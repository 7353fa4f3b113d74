import LineSift.Text.Basic

/-!
# Occurrences of a text in a text

Splitting and replacement take the occurrences of a text from left to right, each beginning
where the last one ended at the earliest, and look at nothing else.
-/

namespace LineSift.Text

/-- The parts of a text between the occurrences of `sep`, after `skip` more code points of an
occurrence. -/
def splitFrom (sep : Text) : Nat → Text → List Text
  | _, [] => [[]]
  | skip + 1, _ :: t => splitFrom sep skip t
  | 0, c :: t =>
    if sep.isPrefixOf (c :: t) then [] :: splitFrom sep (sep.length - 1) t
    else (splitFrom sep 0 t).modifyHead (c :: ·)

/-- The parts of a text between the occurrences of a text that is not empty.  There is one part
more than there are occurrences. -/
def splitOn (t sep : Text) : List Text := splitFrom sep 0 t

/-- A text with every occurrence of `old`, which is not empty, replaced. -/
def replaceAll (t old new : Text) : Text := join new (t.splitOn old)

end LineSift.Text
