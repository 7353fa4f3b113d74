import LineSift.Proofs.Config.Fields
import LineSift.Proofs.RuleSet.Static
import LineSift.Proofs.Value.Listed

/-!
# Field templates that are copied from a line

A field whose template has been copied from a line is found in that line, if the line is a template
of the same rules (`copied_field_found`).  The two copies are read on different ways, one through
the header and its quotes, the other as a line; both ways leave a text without backslashes and
quotes as it is, but for tabs: those of the header are replaced by spaces, those of the line are not
(`copied_tab_not_found`).
-/

namespace LineSift.RuleSet

open Header (Token Laid)
open Text (ofString)

/-- A text in single quotes. -/
def inQuotes (w : Text) : Text := .char '\'' :: (w ++ [.char '\''])

/-- The attributes of a field for numerals, as they are written. -/
def numberAttributes (w : Text) : Assoc Text :=
  [(ofString "template", inQuotes w), (ofString "pattern", inQuotes "\\d+")]

/-- A field for numerals on a line of its own. -/
def numberLine (w : Text) : Text :=
  ofString "field f \x7b template = " ++ (inQuotes w ++ ofString " pattern = '\\d+' \x7d")

/-- A field for numerals above a single template. -/
def numberText (w t : Text) : Text := Text.join [.char '\n'] [numberLine w, ofString "---", t]

/-- A pattern for numerals. -/
def numberRegex : Regex :=
  { pattern := "\\d+", node := .charRun .greedy 1 none (.ofCategory .digit false false) }

/-- A field for numerals. -/
def numberField (w : Text) : Field :=
  { name := "f", template := w, regex := numberRegex, samples := [] }

variable {a w b t : Text}

/-! ## Reading the rules -/

theorem isValue_inQuotes (hquote : .char '\'' ∉ w) (hlast : w.getLast? ≠ some (.char '\\')) :
    Header.IsValue (inQuotes w) :=
  .string (.single ⟨fun before behind h => absurd (h ▸ by simp) hquote, hlast⟩)

/-- A token with a space behind it. -/
theorem laid_spaced {ts : List Token} (tok : Token) (h : Laid ts t) :
    Laid (tok :: ts) (tok.text ++ .char ' ' :: t) :=
  .cons .nil (.space .nil) (fun _ => List.cons_ne_nil _ _) h

theorem writes_numberLine (hline : Header.Inline w) (hquote : .char '\'' ∉ w)
    (hslash : .char '\\' ∉ w) :
    Header.Writes [.field (ofString "f") (numberAttributes w)] (numberLine w) := by
  refine ⟨_, .field (w := ofString "field") .nil, ?valid, ?laid⟩
  case valid =>
    have hf : Header.IsName (ofString "f") := ⟨by decide, by decide⟩
    have htemplate : Header.IsName (ofString "template") := ⟨by decide, by decide⟩
    have hpattern : Header.IsName (ofString "pattern") := ⟨by decide, by decide⟩
    have hinline : Header.Inline (inQuotes w) := by
      obtain ⟨ht, hn, hr⟩ := hline
      simp [Header.Inline, inQuotes, ht, hn, hr]
    have hvalue : Header.IsValue (inQuotes w) :=
      isValue_inQuotes hquote fun h => hslash (List.mem_of_getLast? h)
    have hnumber : Header.IsValue (inQuotes "\\d+") ∧ Header.Inline (inQuotes "\\d+") :=
      ⟨isValue_inQuotes (by decide) (by decide), by decide, by decide, by decide⟩
    simp [numberAttributes, Header.assignment, Token.Valid, Header.isKeyword_field, hf,
      htemplate, hpattern, hvalue, hinline, hnumber]
  case laid =>
    have hbrace : Laid [.symbol '\x7d'] (ofString "\x7d") := .other .nil .nil rfl (.nil .nil)
    have hlaid := laid_spaced (.keyword (ofString "field")) <| laid_spaced (.name (ofString "f")) <|
      laid_spaced (.symbol '\x7b') <| laid_spaced (.name (ofString "template")) <|
      laid_spaced (.symbol '=') <| laid_spaced (.value (inQuotes w)) <|
      laid_spaced (.name (ofString "pattern")) <| laid_spaced (.symbol '=') <|
      laid_spaced (.value (inQuotes "\\d+")) hbrace
    exact hlaid

theorem ofAttributes_number (hslash : .char '\\' ∉ w) :
    Field.ofAttributes (ofString "f") (numberAttributes w) = .ok (numberField w) := by
  have htemplate : Value.unquote (inQuotes w) = .ok w := by
    rw [inQuotes, Value.unquote_single, Text.replaceAll_of_not_mem _ hslash]
  have hpattern : Value.unquote (inQuotes "\\d+") = .ok (ofString "\\d+") := by decide +kernel
  have hregex : Regex.compile (ofString "\\d+") = .ok numberRegex := by decide +kernel
  have hread : Field.readAttributes (ofString "f") {} (numberAttributes w) =
      .ok { pattern := some (ofString "\\d+"), template := w } := by
    simp only [Field.readAttributes, numberAttributes, Field.Attributes.add, htemplate, hpattern]
    rfl
  simp only [Field.ofAttributes, hread, Except.bind, Field.ofPattern, hregex]
  rfl

/-- A line that counts as a template, just as it is. -/
structure IsTemplate (t : Text) : Prop where
  unbroken : .char '\r' ∉ t ∧ .char '\n' ∉ t
  strip_eq : t.strip = t
  counts : t ≠ [] ∧ t.head? ≠ some (.char '#')
  isSeparator_eq : Document.isSeparator t = false

theorem parse_numberText (hline : Header.Inline w) (hquote : .char '\'' ∉ w)
    (hslash : .char '\\' ∉ w) (ht : IsTemplate t) : Document.parse (numberText w t) =
      .ok { fields := [(ofString "f", numberAttributes w)], templates := [t] } := by
  have hheader : .char '\r' ∉ numberLine w ∧ .char '\n' ∉ numberLine w := by
    simp [numberLine, inQuotes, ofString, hline.2.1, hline.2.2]
  have hlines : (numberText w t).lines = [numberLine w, ofString "---", t] := by
    refine Text.lines_join (List.cons_ne_nil _ _) ?_
    simp only [List.forall_mem_cons]
    exact ⟨hheader, ⟨by decide, by decide⟩, ht.unbroken, List.forall_mem_nil _⟩
  have hfield : Document.isSeparator (numberLine w) = false :=
    isSeparator_eq_false (c := .char 'f') (by simp [numberLine, ofString]) (by decide) (by decide)
  have hcut : Document.cutAtSeparator [numberLine w, ofString "---", t] =
      ([numberLine w], [t]) := by
    have hdashes : Document.isSeparator (ofString "---") = true := by decide
    simp [Document.cutAtSeparator, hfield, hdashes]
  have hbehind : Document.cutAtSeparator [t] = ([t], []) :=
    Document.cutAtSeparator_of_none (List.forall_mem_singleton.mpr ht.isSeparator_eq)
  have hentries : Document.entries [t] = [t] := by
    simp [Document.entries, ht.strip_eq, ht.counts]
  have hparse : Header.parse (Text.join [.char '\n'] [numberLine w]) =
      .ok [.field (ofString "f") (numberAttributes w)] :=
    Header.parse_of_writes (writes_numberLine hline hquote hslash)
  have hstrip : (inQuotes w).strip = inQuotes w := Text.strip_enclosed (by decide) (by decide) w
  rw [Document.parse, hlines, hcut]
  simp only [hbehind, hparse, Except.map, hentries, List.foldl_cons, List.foldl_nil, Document.add,
    numberAttributes, List.map_cons, List.map_nil, hstrip]
  rfl

/-! ## The rule set -/

theorem ofRules_number (hw : w ≠ []) (source : Option Text) :
    ∃ rs, ofRules { source, fields := [(ofString "f", numberField w)], templates := [t] } = .ok rs ∧
      rs.toRules = { source, fields := [(ofString "f", numberField w)], templates := [t] } := by
  set r : Rules := { source, fields := [(ofString "f", numberField w)], templates := [t] }
  have hsimple : (Regex.simple? numberRegex.pattern).isSome := by decide +kernel
  have hfields : ∀ x ∈ r.fields ++ r.globals, (Regex.simple? x.2.regex.pattern).isSome :=
    List.forall_mem_singleton.mpr hsimple
  have hpattern : r.patternFor (r.opening ++ t) = patternOf (view r t) :=
    patternFor_eq_view (untouched_single (r := r) (f := numberField w) rfl hw t)
  obtain ⟨regex, hregex, -⟩ := compile_line (simple_view hfields t)
  have hline : compilePattern r.source (r.linePattern t) = .ok regex := by
    rw [compilePattern, Rules.linePattern, hpattern, hregex]
    rfl
  have hgate : (if r.opening = [] then .ok none
      else (compilePattern r.source r.openingPattern).map some) = Except.ok none := rfl
  exact ⟨_, ofRules_eq hgate (mapM_eq_ok_iff.mpr (.cons hline .nil)), rfl⟩

/-- A document of one field for numerals and one template is loaded. -/
theorem ofText_number {text : Text} (hparse : Document.parse text =
      .ok { fields := [(ofString "f", numberAttributes w)], templates := [t] })
    (hw : w ≠ []) (hslash : .char '\\' ∉ w) {policy : Text}
    (hpolicy : (RepeatPolicy.ofText? policy).isSome) (source : Option Text) :
    ∃ rs, (ofText [] source policy text).outcome.1 = .ok rs ∧
      rs.toRules = { source, fields := [(ofString "f", numberField w)], templates := [t] } := by
  obtain ⟨rs, hrs, hrules⟩ := ofRules_number (t := t) hw source
  refine ⟨rs, ?_, hrules⟩
  obtain ⟨log, hload⟩ := ofText_of_document hparse rfl hpolicy [] source
  obtain ⟨result, log', hfields, hresult⟩ :=
    readFields_single source (ofString "f") (numberAttributes w) log
  have hchecked : Field.checked (ofString "f") (numberAttributes w) = .ok (numberField w) := by
    rw [Field.checked, ofAttributes_number hslash]
    rfl
  rw [hchecked] at hresult
  obtain rfl : result = .ok [(ofString "f", numberField w)] := Effect.mapError_eq_ok.mp hresult
  rw [hload]
  change ((readFields source [] [(ofString "f", numberAttributes w)] >>= fun fields =>
    Logged.ofExcept id (ofRules { source, fields, templates := [t] }) : Loading RuleSet) log).1 = _
  rw [Effect.bind_ok hfields, hrs]
  rfl

/-! ## The line that the template is copied from -/

/-- A text that stands once in a line and can be copied into single quotes. -/
structure CopiedFrom (a w b : Text) : Prop where
  ne_nil : w ≠ []
  /-- All of it is one line. -/
  unbroken : .char '\r' ∉ a ++ w ++ b ∧ .char '\n' ∉ a ++ w ++ b
  /-- It has neither quotes nor backslashes. -/
  quote_not_mem : .char '\'' ∉ w
  backslash_not_mem : .char '\\' ∉ w
  /-- The line begins and ends with a letter or a number. -/
  head : ∃ c ∈ a.head?, c.isAlnum
  last : ∃ c ∈ b.getLast?, c.isAlnum
  once : ∀ i < (a ++ w ++ b).length, w <+: (a ++ w ++ b).drop i → i = a.length

theorem CopiedFrom.isTemplate (h : CopiedFrom a w b) : IsTemplate (a ++ w ++ b) := by
  obtain ⟨c, hc, hletter⟩ := h.head
  obtain ⟨d, hd, hletter'⟩ := h.last
  have hhead : (a ++ w ++ b).head? = some c := by
    rw [List.append_assoc, List.head?_append, Option.mem_def.mp hc]
    rfl
  have hlast : (a ++ w ++ b).getLast? = some d := by
    rw [List.getLast?_append, Option.mem_def.mp hd]
    rfl
  have hspace := CodePoint.isSpace_of_isAlnum hletter
  refine ⟨h.unbroken, Text.strip_of_ends ?_ ?_, ⟨?_, ?_⟩, ?_⟩
  · rw [hhead]
    rintro _ ⟨⟩
    exact hspace
  · rw [hlast]
    rintro _ ⟨⟩
    exact CodePoint.isSpace_of_isAlnum hletter'
  · exact fun hnil => by simp [hnil] at hhead
  · rw [hhead]
    rintro ⟨⟩
    exact absurd hletter (by decide)
  · refine isSeparator_eq_false (List.mem_of_head? hhead) ?_ ?_
    · rintro rfl
      exact absurd hletter (by decide)
    · rw [Bool.eq_false_iff]
      intro hblank
      simp only [CodePoint.isBlank, Bool.or_eq_true, beq_iff_eq] at hblank
      rcases hblank with rfl | rfl
      · exact absurd hspace (by decide)
      · exact absurd hspace (by decide)

/-- The view of a line in which a field stands once, between two texts that are not empty. -/
theorem CopiedFrom.view_eq (h : CopiedFrom a w b) (source : Option Text) :
    view { source, fields := [(ofString "f", numberField w)], templates := [a ++ w ++ b] }
      (a ++ w ++ b) = [.text a, .field (numberField w) false, .text b] := by
  have ha : a ≠ [] := by
    rintro rfl
    obtain ⟨c, hc, -⟩ := h.head
    cases hc
  have hb : b ≠ [] := by
    rintro rfl
    obtain ⟨c, hc, -⟩ := h.last
    cases hc
  have hcut := cut_once (f := numberField w) h.ne_nil h.once false
  calc view _ (a ++ w ++ b)
      = [Part.text (a ++ w ++ b)].flatMap (Part.cut (numberField w) false) := rfl
    _ = Part.interleave (.field (numberField w) false) [a, b] := by
      rw [List.flatMap_singleton]
      exact hcut
    _ = _ := by
      rw [Part.interleave_of_ne_nil _ _ (List.cons_ne_nil b []), Part.interleave,
        if_neg ha, if_neg hb]
      rfl

/-- **A field template that is copied from a line is found there.** -/
theorem copied_field_found (h : CopiedFrom a w b) (htab : .char '\t' ∉ w) (source : Option Text)
    {policy : Text} (hpolicy : (RepeatPolicy.ofText? policy).isSome) :
    ∃ rs, (ofText [] source policy (numberText w (a ++ w ++ b))).outcome.1 = .ok rs ∧
      rs.fields = [(ofString "f", numberField w)] ∧ rs.templates = [a ++ w ++ b] ∧
      view rs.toRules (a ++ w ++ b) = [.text a, .field (numberField w) false, .text b] := by
  have hinline : Header.Inline w := by
    refine ⟨htab, fun hn => h.unbroken.2 ?_, fun hr => h.unbroken.1 ?_⟩ <;> simp [*]
  have hparse := parse_numberText hinline h.quote_not_mem h.backslash_not_mem h.isTemplate
  obtain ⟨rs, hrs, hrules⟩ := ofText_number hparse h.ne_nil h.backslash_not_mem hpolicy source
  refine ⟨rs, hrs, ?_, ?_, ?_⟩
  · rw [hrules]
  · rw [hrules]
  · rw [hrules]
    exact h.view_eq source

/-- A copied text with a comment sign, an equals sign and a brace. -/
theorem copied_field_found_comment :
    CopiedFrom "pid" "#7 =\x7b" "x" ∧
      ∃ rs, (ofText [] none "warn" (numberText "#7 =\x7b" "pid#7 =\x7bx")).outcome.1 = .ok rs ∧
        view rs.toRules "pid#7 =\x7bx" =
          [.text "pid", .field (numberField "#7 =\x7b") false, .text "x"] := by
  have h : CopiedFrom "pid" "#7 =\x7b" "x" :=
    ⟨by decide, ⟨by decide, by decide⟩, by decide, by decide, ⟨.char 'p', rfl, by decide⟩,
      ⟨.char 'x', rfl, by decide⟩, by decide⟩
  have hpolicy : (RepeatPolicy.ofText? "warn").isSome := by decide
  obtain ⟨rs, hrs, -, -, hview⟩ := copied_field_found h (by decide) none hpolicy
  exact ⟨h, rs, hrs, hview⟩

/-- With a tab in the copied text the field is not found: its template has a space there. -/
theorem copied_tab_not_found :
    CopiedFrom "a" "x\ty" "b" ∧
      ∃ rs, (ofText [] none "warn" (numberText "x\ty" "ax\tyb")).outcome.1 = .ok rs ∧
        rs.templates = [ofString "ax\tyb"] ∧ view rs.toRules "ax\tyb" = [.text "ax\tyb"] ∧
        ∀ f, view rs.toRules "ax\tyb" ≠ [.text "a", .field f false, .text "b"] := by
  have hparse : Document.parse (numberText "x\ty" "ax\tyb") =
      .ok { fields := [(ofString "f", numberAttributes "x y")], templates := ["ax\tyb"] } := by
    decide +kernel
  have hpolicy : (RepeatPolicy.ofText? "warn").isSome := by decide
  obtain ⟨rs, hrs, hrules⟩ := ofText_number hparse (by decide) (by decide) hpolicy none
  have hview : view rs.toRules "ax\tyb" = [.text "ax\tyb"] := by
    rw [hrules]
    rfl
  refine ⟨⟨by decide, ⟨by decide, by decide⟩, by decide, by decide, ⟨.char 'a', rfl, by decide⟩,
    ⟨.char 'b', rfl, by decide⟩, by decide⟩, rs, hrs, by rw [hrules], hview, fun f => ?_⟩
  rw [hview]
  exact fun h => by simpa using congrArg List.length h

end LineSift.RuleSet
