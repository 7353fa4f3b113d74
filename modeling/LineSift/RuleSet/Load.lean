import LineSift.RuleSet.Basic
import LineSift.Rules.Document

/-!
# Rule sets from text

A rules file becomes a rule set in steps, and the first step that fails decides: the header is
read, the policy for repeated fields is applied, the options and fields are unquoted in order, each
field with its samples, and the patterns are compiled.
-/

namespace LineSift.RuleSet

open Text (ofString)

/-- What to do about a field name that occurs twice. -/
inductive RepeatPolicy where
  /-- The last definition is used, with a warning. -/
  | warn
  /-- The rules are refused. -/
  | refuse
  /-- The last definition is used. -/
  | ignore
  deriving DecidableEq

/-- The policy with a given name. -/
def RepeatPolicy.ofText? (t : Text) : Option RepeatPolicy :=
  if t = "warn" then some .warn
  else if t = "error" then some .refuse
  else if t = "ignore" then some .ignore
  else none

/-- Work on the rules of a source. -/
abbrev Loading := Logged Error

/-- Reads the options, of which only the opening text is known. -/
def readOpening (source : Option Text) (opening : Text) : Assoc Text → Loading Text
  | [] => return opening
  | (key, value) :: rest =>
    if key = "prefix" then do
      let t ← Logged.ofExcept (fun e => ⟨source, .opening e⟩) (Value.unquote value)
      readOpening source t rest
    else throw ⟨source, .unknownOption key⟩

/-- Makes the fields; each has to match its samples. -/
def readFields (source : Option Text) (fields : Assoc Field) :
    Assoc (Assoc Text) → Loading (Assoc Field)
  | [] => return fields
  | (name, attributes) :: rest => do
    let f ← Field.load (fun e => ⟨source, .field name e⟩) name attributes
    match f.badSample? with
    | some bad => throw ⟨source, .fieldSample bad⟩
    | none => readFields source (fields.put name f) rest

/-- The rule set of a document. -/
def ofDocument (globals : Assoc Field) (source : Option Text) (d : Document) : Loading RuleSet := do
  let opening ← readOpening source [] d.options
  let fields ← readFields source [] d.fields
  Logged.ofExcept id
    (ofRules { source, opening, fields, globals, templates := d.templates, samples := d.samples })

/-- Applies the policy to the field names that occur again. -/
def reportRepeated (source : Option Text) (policy : RepeatPolicy) : List Text → Loading Unit
  | [] => return
  | name :: rest =>
    match policy with
    | .refuse => throw ⟨source, .repeatedField name⟩
    | .warn => do
      Logged.say .warning (named source (Cause.repeatedField name).message ++
        ofString ", the last definition is used")
      reportRepeated source policy rest
    | .ignore => reportRepeated source policy rest

/-- Reads a document and notes its size. -/
def readDocument (source : Option Text) (text : Text) : Loading Document := do
  let d ← Logged.ofExcept (fun e => ⟨source, .header e⟩) (Document.parse text)
  Logged.say .debug
    (ofString "parsed " ++ Text.decimal d.fields.length ++ ofString " fields, " ++
      Text.decimal d.templates.length ++ ofString " templates, " ++
      Text.decimal d.samples.length ++ ofString " samples")
  return d

/-- The rule set of a text; the policy for repeated fields is given by its name. -/
def ofText (globals : Assoc Field) (source : Option Text) (policy : Text) (text : Text) :
    Loading RuleSet := do
  let d ← readDocument source text
  match RepeatPolicy.ofText? policy with
  | none => throw ⟨source, .unknownPolicy policy⟩
  | some p =>
    reportRepeated source p d.repeated
    ofDocument globals source d

end LineSift.RuleSet
