import LineSift.Assoc
import LineSift.Log
import LineSift.Regex.Basic
import LineSift.Value.List

/-!
# Fields

A field is a part of a log message that varies.  Templates show it by an example text, and a
pattern says what it can be.  Its samples must be matched over their full span.
-/

namespace LineSift

/-- A variable part of log messages. -/
structure Field where
  name : Text
  /-- The text that stands for the field in templates; none if it is empty. -/
  template : Text
  regex : Regex
  samples : List Text
  deriving DecidableEq

namespace Field

/-- Why a field cannot be made from its attributes. -/
inductive Error where
  /-- An attribute is badly quoted. -/
  | badValue (e : Value.Error)
  /-- An attribute is not known. -/
  | unknownKey (key name : Text)
  /-- There is no pattern. -/
  | noPattern (name : Text)
  /-- The pattern cannot be compiled. -/
  | badPattern (pattern name : Text) (e : Regex.Error)
  deriving DecidableEq

open Text (ofString) in
/-- The wording of each cause.  What is wrong with a pattern beyond its grammar is reported without
naming the field. -/
def Error.message : Error → Text
  | .badValue e => e.message
  | .unknownKey key name =>
    ofString "unknown key " ++ key.shown ++ ofString " in field " ++ name.shown
  | .noPattern name => ofString "field " ++ name.shown ++ ofString " has no pattern"
  | .badPattern pattern name e =>
    if e.kind = .pattern then
      ofString "invalid pattern " ++ pattern.shown ++ ofString " in field " ++ name.shown ++
        ofString ": " ++ e.message pattern
    else e.message pattern

/-- The kind of each cause.  A malformed pattern is a fault of the field. -/
def Error.kind : Error → Kind
  | .badValue e => e.kind
  | .unknownKey _ _ => .parsing
  | .noPattern _ => .compiling
  | .badPattern _ _ e => if e.kind = .pattern then .compiling else e.kind

/-- A field with a pattern that is compiled as it is. -/
def ofPattern (name template pattern : Text) (samples : List Text) : Except Regex.Error Field :=
  (Regex.compile pattern).map fun regex => { name, template, regex, samples }

/-- The attributes of a field, once they are unquoted. -/
structure Attributes where
  pattern : Option Text := none
  template : Text := []
  samples : List Text := []

/-- Adds an attribute. -/
def Attributes.add (name : Text) (a : Attributes) (key value : Text) : Except Error Attributes :=
  if key = "pattern" then
    ((Value.unquote value).map fun v => { a with pattern := some v }).mapError .badValue
  else if key = "template" then
    ((Value.unquote value).map fun v => { a with template := v }).mapError .badValue
  else if key = "samples" then
    ((Value.unquoteList value).map fun v => { a with samples := v }).mapError .badValue
  else .error (.unknownKey key name)

/-- Reads attributes in order, up to the first that is wrong. -/
def readAttributes (name : Text) (a : Attributes) : Assoc Text → Except Error Attributes
  | [] => .ok a
  | (key, value) :: rest => (a.add name key value).bind fun b => readAttributes name b rest

/-- A field with attributes as they are written. -/
def ofAttributes (name : Text) (written : Assoc Text) : Except Error Field :=
  (readAttributes name {} written).bind fun a =>
    match a.pattern with
    | none => .error (.noPattern name)
    | some pattern =>
      (ofPattern name a.template pattern a.samples).mapError (.badPattern pattern name)

open Text (ofString) in
/-- Makes a field and notes when it has no template. -/
def load {ε : Type} (wrap : Error → ε) (name : Text) (written : Assoc Text) : Logged ε Field := do
  let f ← Logged.ofExcept wrap (ofAttributes name written)
  if f.template = [] then
    Logged.say .debug (ofString "field " ++ name ++ ofString " has no template")
  return f

/-- A sample that is not matched, with the way it fails. -/
structure BadSample where
  field : Text
  sample : Text
  failure : Regex.SpanFailure
  deriving DecidableEq

open Text (ofString) in
/-- The wording for a sample that is not matched. -/
def BadSample.message (b : BadSample) : Text :=
  ofString "field " ++ b.field ++ ofString ": " ++ b.failure.message

/-- The first sample that is not matched over its full span. -/
def badSample? (f : Field) : Option BadSample :=
  f.samples.findSome? fun sample => (f.regex.spanFailure? sample).map (⟨f.name, sample, ·⟩)

/-- Two fields agree when they are written alike. -/
def agrees (a b : Field) : Bool :=
  a.name == b.name && a.template == b.template && a.samples == b.samples &&
    a.regex.pattern == b.regex.pattern

/-- What decides in which place of a hash table a field is kept: everything but its samples. -/
def hashKey (f : Field) : Text × Text × Text := (f.name, f.template, f.regex.pattern)

open Text (ofString) in
/-- A field in short. -/
def shown (f : Field) : Text :=
  ofString "Field(" ++ f.name.shown ++ ofString ", template=" ++ f.template.shown ++
    ofString ", pattern=" ++ f.regex.pattern.shown ++ ofString ")"

end Field

end LineSift
