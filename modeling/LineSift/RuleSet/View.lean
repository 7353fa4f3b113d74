import LineSift.RuleSet.Basic

/-!
# Templates for readers

A template is shown as the sequence of its texts and fields.  The fields are found in the same
order as they are put into patterns, but only within texts that stand for themselves.
-/

namespace LineSift.RuleSet

open Text (ofString)

/-- A part of a template. -/
inductive Part where
  | text (t : Text)
  | field (f : Field) (isGlobal : Bool)

namespace Part

/-- A field by its name, in brackets or, for a global one, in braces. -/
def label (f : Field) (isGlobal : Bool) : Text :=
  if isGlobal then ofString "\x7b" ++ f.name ++ ofString "\x7d"
  else ofString "[" ++ f.name ++ ofString "]"

/-- A part with fields by their names. -/
def byName : Part → Text
  | .text t => t
  | .field f isGlobal => label f isGlobal

/-- A part with fields by their templates, as it was written. -/
def byTemplate : Part → Text
  | .text t => t
  | .field f _ => f.template

/-- A field in messages. -/
def fieldShown (f : Field) (isGlobal : Bool) : Text :=
  ofString "FieldView(" ++ f.name.shown ++ ofString ", is_global=" ++
    ofString (if isGlobal then "True" else "False") ++ ofString ")"

/-- The texts between the occurrences of a field, with the field between them; empty texts are left
out. -/
def interleave (field : Part) : List Text → List Part
  | [] => []
  | [t] => if t = [] then [] else [.text t]
  | t :: ts => (if t = [] then [] else [.text t]) ++ field :: interleave field ts

/-- Looks for a field in a part. -/
def cut (f : Field) (isGlobal : Bool) : Part → List Part
  | .text t =>
    if f.template = [] then [.text t] else interleave (.field f isGlobal) (t.splitOn f.template)
  | p => [p]

/-- Looks for fields in parts, one after the other. -/
def cutAll (isGlobal : Bool) (fields : Assoc Field) (parts : List Part) : List Part :=
  fields.foldl (fun ps (_, f) => ps.flatMap (cut f isGlobal)) parts

end Part

/-- The parts of a template. -/
def view (r : Rules) (template : Text) : List Part :=
  Part.cutAll true r.globals (Part.cutAll false r.fields [.text template])

/-- A template with its fields by name. -/
def render (parts : List Part) : Text := parts.flatMap Part.byName

/-- A template as it was written. -/
def renderTemplates (parts : List Part) : Text := parts.flatMap Part.byTemplate

end LineSift.RuleSet
