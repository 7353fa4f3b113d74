import LineSift.Field
import LineSift.Rules.Header

/-!
# Why rules cannot be used

A rule set can be without a source name.  If it has one, failures that concern the rules are told
with it; the others are told as they are.
-/

namespace LineSift.RuleSet

open Text (ofString)

/-- A cause of failure, without the name of the source. -/
inductive Cause where
  /-- The header is not well-formed. -/
  | header (e : Header.Error)
  /-- The text that opens every line is badly quoted. -/
  | opening (e : Value.Error)
  /-- An option is not known. -/
  | unknownOption (key : Text)
  /-- A field cannot be made. -/
  | field (name : Text) (e : Field.Error)
  /-- A sample of a field is not matched. -/
  | fieldSample (bad : Field.BadSample)
  /-- A sample line is not matched by any template. -/
  | sampleLine (line : Text)
  /-- A field name occurs twice, and that is refused. -/
  | repeatedField (name : Text)
  /-- The pattern made from a template cannot be compiled. -/
  | badRegex (pattern : Text) (e : Regex.Error)
  /-- No policy for repeated fields has this name. -/
  | unknownPolicy (policy : Text)
  deriving DecidableEq

namespace Cause

/-- The kind of each cause. -/
def kind : Cause → Kind
  | .header _ => .parsing
  | .opening e => e.kind
  | .unknownOption _ => .compiling
  | .field _ e => e.kind
  | .fieldSample _ | .sampleLine _ => .validation
  | .repeatedField _ => .compiling
  | .badRegex _ e => if e.kind = .pattern then .compiling else e.kind
  | .unknownPolicy _ => .badValue

/-- The words for a part of the rules, in front of a failure that concerns it. -/
def within (place : Text) (k : Kind) (message : Text) : Text :=
  if k.concernsRules then place ++ ofString ": " ++ message else message

/-- The wording of each cause. -/
def message : Cause → Text
  | .header e => e.message
  | .opening e => within "option prefix" e.kind e.message
  | .unknownOption key => ofString "unknown option " ++ key.shown
  | .field name e => within (ofString "field " ++ name) e.kind e.message
  | .fieldSample bad => bad.message
  | .sampleLine line => ofString "sample message does not match any rules: " ++ line.shown
  | .repeatedField name => ofString "field " ++ name ++ ofString " defined more than once"
  | .badRegex pattern e =>
    if e.kind = .pattern then
      ofString "invalid regular expression " ++ pattern.shown ++ ofString ": " ++ e.message pattern
    else e.message pattern
  | .unknownPolicy policy => ofString "invalid duplicate_fields policy " ++ policy

end Cause

/-- A failure of rules from a source that can have a name. -/
structure Error where
  source : Option Text
  cause : Cause
  deriving DecidableEq

/-- A message about rules, with the name of their source. -/
def named (source : Option Text) (message : Text) : Text :=
  match source with
  | none => message
  | some name => name ++ ofString ": " ++ message

namespace Error

/-- The kind of a failure. -/
def kind (e : Error) : Kind := e.cause.kind

/-- The wording of a failure. -/
def message (e : Error) : Text :=
  if e.kind.concernsRules then named e.source e.cause.message else e.cause.message

end Error

end LineSift.RuleSet
