import LineSift.Proofs.Regex.Advance
import LineSift.Proofs.Regex.Enclosed
import LineSift.Proofs.RuleSet.Patterns
import LineSift.Proofs.Text.Split

/-!
# The text of a template around its field

A rule set with one field, which stands once in its one template, compiles the text before the
field, the field's pattern as it is written, and the text behind it into one pattern
(`linePattern_eq`).  If the field's pattern is a single alternative and no number at its end is
continued by the text behind, every known line begins and ends with these texts
(`begins_and_ends_of_knows`).  Otherwise the pattern and the text around it mean something else than
each by itself, and lines without that text are known (`static_text_not_required`).
-/

namespace LineSift

namespace Splice

/-- Nothing has been put into a text of a pattern's own. -/
theorem ownOnly_ownText (q t : Text) : OwnOnly q (ownText t) := by
  induction t with
  | nil => trivial
  | cons c t ih =>
    refine ⟨fun h => ?_, ih⟩
    have hflat : flat (ownText t) = t := flat_ownText t
    have hflat' : flat (List.map Splice.own t) = t := hflat
    rw [hflat'] at h
    obtain ⟨rest, hrest⟩ := h
    exact ⟨ownText rest, by rw [ownText, ownText, ← List.map_append, hrest]; rfl⟩

end Splice

namespace RuleSet

open Regex (quote isUnbranched EndsOpenTo)

/-- Rules with one field and one template, in which the field stands once, between two texts. -/
structure HasSingle (r : Rules) (f : Field) (a b : Text) : Prop where
  field : ∃ name, r.fields ++ r.globals = [(name, f)]
  compiled : Regex.compile f.regex.pattern = .ok f.regex
  template : f.template ≠ []
  opening : r.opening = []
  templates : r.templates = [a ++ f.template ++ b]
  once : ∀ i < (a ++ f.template ++ b).length, f.template <+: (a ++ f.template ++ b).drop i →
    i = a.length

variable {r : Rules} {f : Field} {a b : Text}

/-- The only field there is cannot be found in what another has put in. -/
theorem untouched_single {name : Text} (hfield : r.fields ++ r.globals = [(name, f)])
    (hf : f.template ≠ []) (t : Text) : Untouched r t := by
  rw [Untouched, hfield, OwnOnlyAll, if_neg hf]
  exact ⟨Splice.ownOnly_ownText _ _, trivial⟩

/-- A field that stands once in a text is found there. -/
theorem cut_once (hf : f.template ≠ []) (honce : ∀ i < (a ++ f.template ++ b).length,
    f.template <+: (a ++ f.template ++ b).drop i → i = a.length) (isGlobal : Bool) :
    Part.cut f isGlobal (.text (a ++ f.template ++ b)) =
      Part.interleave (.field f isGlobal) [a, b] := by
  rw [Part.cut, if_neg hf, Text.splitOn_once hf honce]

theorem patternOf_interleave (f : Field) (isGlobal : Bool) (a b : Text) :
    patternOf (Part.interleave (.field f isGlobal) [a, b]) =
      quote a ++ f.regex.pattern ++ quote b := by
  have htext (t : Text) :
      (if t = [] then [] else [Part.text t]).flatMap Part.pattern = quote t := by
    split
    · next ht =>
      subst ht
      rfl
    · exact List.append_nil _
  have hparts : Part.interleave (.field f isGlobal) [a, b] = (if a = [] then [] else [.text a]) ++
      (.field f isGlobal :: if b = [] then [] else [.text b]) := rfl
  rw [hparts, patternOf, List.flatMap_append, List.flatMap_cons, htext, htext, List.append_assoc]
  rfl

/-- The pattern for the template: the field's pattern stands as it is between the quoted texts. -/
theorem HasSingle.linePattern_eq (h : HasSingle r f a b) :
    r.linePattern (a ++ f.template ++ b) = Text.ofString "\\A" ++
      (quote a ++ f.regex.pattern ++ quote b) ++ Text.ofString "\\Z" := by
  obtain ⟨name, hfield⟩ := h.field
  have hview : ∃ isGlobal, view r (a ++ f.template ++ b) =
      Part.interleave (.field f isGlobal) [a, b] := by
    have hcut (isGlobal : Bool) : [Part.text (a ++ f.template ++ b)].flatMap (Part.cut f isGlobal) =
        Part.interleave (.field f isGlobal) [a, b] := by
      rw [List.flatMap_singleton, cut_once h.template h.once]
    rcases List.append_eq_singleton_iff.mp hfield with ⟨hlocal, hglobal⟩ | ⟨hlocal, hglobal⟩
    · exact ⟨true, by rw [view, hlocal, hglobal]; exact hcut true⟩
    · exact ⟨false, by rw [view, hlocal, hglobal]; exact hcut false⟩
  obtain ⟨isGlobal, hview⟩ := hview
  rw [Rules.linePattern, h.opening, List.nil_append,
    patternFor_eq_view (untouched_single hfield h.template _), hview, patternOf_interleave]

/-- **The text around a field is required.**  If the field's pattern is a single alternative, and no
number at its end takes the first code point of the text behind it for a digit, a known line begins
with the text before the field and ends with the text behind it. -/
theorem begins_and_ends_of_knows {rs : RuleSet} {line : Text} (h : HasSingle r f a b)
    (hunbranched : isUnbranched f.regex.pattern = true)
    (hnumber : ∀ d, b.head? = some d → ¬ EndsOpenTo f.regex.pattern d)
    (hrules : ofRules r = .ok rs) (hknows : rs.knows line = true) :
    a <+: line ∧ b <:+ line ∧ a.length + b.length ≤ line.length := by
  obtain ⟨-, hregexes⟩ := regexes_of_ofRules hrules
  rw [h.templates] at hregexes
  obtain ⟨regex, _, hregex, hnil, hone⟩ := List.forall₂_cons_left_iff.mp hregexes
  rw [List.forall₂_nil_left_iff.mp hnil] at hone
  rw [h.linePattern_eq] at hregex
  obtain ⟨nodes, hnode⟩ := Regex.parse_enclosed
    (Regex.of_compile_ok h.compiled).2 hunbranched hnumber
    (a := a) (b := b) (Regex.of_compile_ok hregex).2
  have hspan : regex.matchesSpan line = true := by
    unfold knows at hknows
    rw [hone, Bool.and_eq_true, List.any_cons, List.any_nil, Bool.or_false] at hknows
    exact hknows.2
  obtain ⟨pattern, node⟩ := regex
  obtain rfl := hnode
  obtain ⟨between, rfl⟩ := Regex.literals_of_matchesSpan hspan
  refine ⟨⟨between ++ b, by rw [List.append_assoc]⟩, List.suffix_append _ _, ?_⟩
  rw [List.length_append, List.length_append]
  omega

/-- Rules that compile to a rule set which knows a line. -/
def knownBy (r : Rules) (line : Text) : Bool :=
  match ofRules r with
  | .ok rs => rs.knows line
  | .error _ => false

theorem exists_of_knownBy (line : Text) (h : knownBy r line = true) :
    ∃ rs, ofRules r = .ok rs ∧ rs.knows line = true := by
  unfold knownBy at h
  cases hrs : ofRules r with
  | error e =>
    rw [hrs] at h
    cases h
  | ok rs =>
    rw [hrs] at h
    exact ⟨rs, rfl, h⟩

/-- A field for the direction of a connection. -/
def directionField : Field :=
  { name := "direction", template := "in", samples := [],
    regex := {
      pattern := "(?:in|out)"
      node := .alt (.seq (.char (.literal .exact 'i')) (.char (.literal .exact 'n')))
        (.seq (.char (.literal .exact 'o')) (.seq (.char (.literal .exact 'u'))
          (.char (.literal .exact 't')))) } }

/-- Rules for lines such as `eth0: out 1`. -/
def connectionRules : Rules :=
  { fields := [("direction", directionField)], templates := ["eth0: in 1"] }

theorem hasSingle_connection : HasSingle connectionRules directionField "eth0: " " 1" where
  field := ⟨_, rfl⟩
  compiled := by decide +kernel
  template := by decide
  opening := rfl
  templates := by decide
  once := by decide

theorem begins_and_ends_of_knows_connection :
    HasSingle connectionRules directionField "eth0: " " 1" ∧
      isUnbranched directionField.regex.pattern = true ∧
      (∀ d, (Text.ofString " 1").head? = some d → ¬ EndsOpenTo directionField.regex.pattern d) ∧
      ∃ rs, ofRules connectionRules = .ok rs ∧ rs.knows "eth0: out 1" = true ∧
        Text.ofString "eth0: " <+: "eth0: out 1" ∧ Text.ofString " 1" <:+ "eth0: out 1" ∧
        (Text.ofString "eth0: ").length + (Text.ofString " 1").length ≤
          (Text.ofString "eth0: out 1").length := by
  have hunbranched : isUnbranched directionField.regex.pattern = true := by decide +kernel
  have hnumber : ∀ d, (Text.ofString " 1").head? = some d →
      ¬ EndsOpenTo directionField.regex.pattern d := by
    intro d hd
    obtain rfl := Option.some.inj hd
    exact Regex.not_endsOpenTo _ (by decide)
  refine ⟨hasSingle_connection, hunbranched, hnumber, ?_⟩
  obtain ⟨rs, hrs, hknows⟩ := exists_of_knownBy (r := connectionRules) "eth0: out 1"
    (by decide +kernel)
  exact ⟨rs, hrs, hknows,
    begins_and_ends_of_knows hasSingle_connection hunbranched hnumber hrs hknows⟩

/-- A field whose pattern has two alternatives. -/
def letterField : Field :=
  { name := "letter", template := "N", samples := [],
    regex :=
      { pattern := "x|y",
        node := .alt (.char (.literal .exact 'x')) (.char (.literal .exact 'y')) } }

/-- A field whose pattern ends with a number. -/
def nullField : Field :=
  { name := "null", template := "N", samples := [],
    regex := { pattern := "\\0", node := .char (.literal .exact '\x00') } }

/-- With alternatives that are not in a group, the line need not begin with the text before the
field.  With a number that takes the text behind the field for its digits, it need not end with that
text. -/
theorem static_text_not_required :
    (∃ r rs, HasSingle r letterField "foo " " bar" ∧ ofRules r = .ok rs ∧
      rs.knows "y bar" = true ∧ ¬ Text.ofString "foo " <+: "y bar") ∧
    (∃ r rs, HasSingle r nullField "" "1" ∧ ofRules r = .ok rs ∧
      rs.knows "\x01" = true ∧ ¬ Text.ofString "1" <:+ "\x01") := by
  constructor
  · obtain ⟨rs, hrs, hknows⟩ := exists_of_knownBy "y bar"
      (r := { fields := [("letter", letterField)], templates := ["foo N bar"] }) (by decide +kernel)
    refine ⟨_, rs, ⟨⟨_, rfl⟩, ?_, ?_, rfl, ?_, ?_⟩, hrs, hknows, ?_⟩
    · decide +kernel
    all_goals decide
  · obtain ⟨rs, hrs, hknows⟩ := exists_of_knownBy "\x01"
      (r := { fields := [("null", nullField)], templates := ["N1"] }) (by decide +kernel)
    refine ⟨_, rs, ⟨⟨_, rfl⟩, ?_, ?_, rfl, ?_, ?_⟩, hrs, hknows, ?_⟩
    · decide +kernel
    all_goals decide

end RuleSet

end LineSift
