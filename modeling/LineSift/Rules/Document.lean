import LineSift.Rules.Header

/-!
# Rules files

A rules file has up to three sections, separated by lines of dashes: the header, the templates
and the samples.  In the last two every line counts for itself; blank lines and lines that begin
with a number sign do not count.
-/

namespace LineSift

/-- What a rules file says, with values as they are written. -/
structure Document where
  options : Assoc Text := []
  fields : Assoc (Assoc Text) := []
  templates : List Text := []
  samples : List Text := []
  /-- The names of fields that were there already, once for each repetition. -/
  repeated : List Text := []
  deriving DecidableEq

namespace Document

/-- A line of three or more dashes, with spaces and tabs around. -/
def isSeparator (line : Text) : Bool :=
  let dashes := line.dropWhile CodePoint.isBlank
  let rest := dashes.dropWhile (· == .char '-')
  3 ≤ dashes.length - rest.length && rest.all CodePoint.isBlank

/-- The lines before the first separator, and those behind it. -/
def cutAtSeparator : List Text → List Text × List Text
  | [] => ([], [])
  | line :: lines =>
    if isSeparator line then ([], lines)
    else
      let (before, behind) := cutAtSeparator lines
      (line :: before, behind)

/-- The lines of a section that count. -/
def entries (lines : List Text) : List Text :=
  (lines.map Text.strip).filter fun line => line ≠ [] ∧ line.head? ≠ some (.char '#')

/-- The document with one more item of the header. -/
def add (d : Document) : Header.Item → Document
  | .option key value => { d with options := d.options.put (Text.strip key) (Text.strip value) }
  | .field name attributes =>
    let name := Text.strip name
    let attributes := Assoc.ofList (attributes.map fun (k, v) => (Text.strip k, Text.strip v))
    { d with
      fields := d.fields.put name attributes
      repeated := if d.fields.has name then d.repeated ++ [name] else d.repeated }

/-- Reads a rules file. -/
def parse (text : Text) : Except Header.Error Document :=
  let (header, behind) := cutAtSeparator text.lines
  let (templates, samples) := cutAtSeparator behind
  (Header.parse (Text.join [.char '\n'] header)).map fun items =>
    { items.foldl add {} with templates := entries templates, samples := entries samples }

end Document

end LineSift
