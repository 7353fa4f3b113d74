import LineSift.Regex.Escape
import LineSift.RuleSet.Error
import LineSift.Text.Replace

/-!
# Rule sets

The rules of one source say what its known lines look like.  Every line begins with the opening
text, and goes on with one of the templates.  Both are example lines: where the template of a
field occurs in them, the pattern of the field stands, and everything else stands for itself.

Fields are put in by replacing text, first those of the rules themselves and then the global ones,
each in order.  So a global field is put into the patterns of the fields before it as well, and a
field whose template is a part of another template is put in there too.
-/

namespace LineSift

/-- The rules of one source. -/
structure Rules where
  /-- The name of the source. -/
  source : Option Text := none
  /-- The text that every line begins with. -/
  opening : Text := []
  /-- The fields of these rules. -/
  fields : Assoc Field := []
  /-- The fields that all rules share. -/
  globals : Assoc Field := []
  templates : List Text := []
  /-- Lines that the rules must match. -/
  samples : List Text := []
  deriving DecidableEq

namespace Rules

/-- Replaces the templates of fields in a pattern by their patterns. -/
def substitute (fields : Assoc Field) (pattern : Text) : Text :=
  fields.foldl (fun p (_, f) =>
    if f.template = [] then p else p.replaceAll (Regex.quote f.template) f.regex.pattern) pattern

/-- The pattern for an example text. -/
def patternFor (r : Rules) (t : Text) : Text :=
  substitute r.globals (substitute r.fields (Regex.quote t))

/-- The pattern for the beginning of a line. -/
def openingPattern (r : Rules) : Text := Text.ofString "\\A" ++ r.patternFor r.opening

/-- The pattern for a line that follows a template. -/
def linePattern (r : Rules) (template : Text) : Text :=
  Text.ofString "\\A" ++ r.patternFor (r.opening ++ template) ++ Text.ofString "\\Z"

end Rules

/-- Rules with their compiled patterns. -/
structure RuleSet extends Rules where
  /-- The pattern for the beginning of a line, unless every beginning will do. -/
  openingRegex : Option Regex
  /-- The patterns for the templates, in order. -/
  regexes : List Regex
  deriving DecidableEq

namespace RuleSet

/-- Compiles a pattern made from rules. -/
def compilePattern (source : Option Text) (pattern : Text) : Except Error Regex :=
  (Regex.compile pattern).mapError fun e => ⟨source, .badRegex pattern e⟩

/-- Compiles rules: first the pattern for the beginning, then those for the templates. -/
def ofRules (r : Rules) : Except Error RuleSet := do
  let openingRegex ←
    if r.opening = [] then pure none
    else (compilePattern r.source r.openingPattern).map some
  let regexes ← r.templates.mapM fun t => compilePattern r.source (r.linePattern t)
  return { r with openingRegex, regexes }

/-- Whether a line is known. -/
def knows (r : RuleSet) (line : Text) : Bool :=
  r.openingRegex.all (·.matchesStart line) && r.regexes.any (·.matchesSpan line)

/-- The first sample that is not matched: those of the fields come first, then the lines. -/
def fault? (r : RuleSet) : Option Error :=
  (r.fields.findSome? fun (_, f) => f.badSample?.map fun bad => ⟨r.source, .fieldSample bad⟩).or
    ((r.samples.find? fun line => !r.knows line).map fun line => ⟨r.source, .sampleLine line⟩)

open Text (ofString) in
/-- A rule set in short. -/
def shown (r : RuleSet) : Text :=
  ofString "RuleSet(name=" ++ (match r.source with | none => ofString "None" | some n => n.shown) ++
    ofString ", templates=" ++ Text.decimal r.templates.length ++ ofString ")"

/-- Whether one of several rule sets knows a line.  They are asked in order up to the first that
does. -/
def anyKnows (sets : List RuleSet) (line : Text) : Bool := sets.any (·.knows line)

/-- How many rule sets are asked about a line. -/
def asked (sets : List RuleSet) (line : Text) : Nat :=
  min (sets.findIdx (·.knows line) + 1) sets.length

end RuleSet

end LineSift
