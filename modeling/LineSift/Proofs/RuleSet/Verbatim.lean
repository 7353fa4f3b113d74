import LineSift.Proofs.RuleSet.Loaded
import LineSift.Proofs.RuleSet.Simple
import LineSift.Proofs.Rules.Sections
import LineSift.Proofs.Scan.Texts

/-!
# Rules that are copied lines

Without fields the pattern for a line is the opening text and a template, each code point for itself
between the two anchors, so that very text is known and no other (`knows_without_fields`).  Lines
that have been copied below a separator are therefore not handed out any more, and all others still
are (`copied_lines_known`).
-/

namespace LineSift.RuleSet

theorem patternFor_without_fields {r : Rules} (hfields : r.fields = []) (hglobals : r.globals = [])
    (t : Text) : r.patternFor t = patternOf [.text t] := by
  rw [Rules.patternFor, hfields, hglobals]
  exact (List.append_nil _).symm

/-- A single text is cut into itself. -/
theorem cut_text (t line : Text) : Cut [.text t] line ↔ line = t := by
  rw [cut_cons, cut_nil]
  constructor
  · rintro ⟨a, b, rfl, rfl, rfl⟩
    exact List.append_nil _
  · rintro rfl
    exact ⟨line, [], (List.append_nil _).symm, rfl, rfl⟩

/-- Rules without fields can be compiled, and know the opening text followed by a template and
nothing else. -/
theorem knows_without_fields {r : Rules} (hfields : r.fields = []) (hglobals : r.globals = []) :
    ∃ rs, ofRules r = .ok rs ∧
      ∀ line, rs.knows line = true ↔ ∃ t ∈ r.templates, line = r.opening ++ t := by
  have hpattern := patternFor_without_fields hfields hglobals
  have hsimple (t : Text) : ∀ p ∈ [Part.text t], p.IsSimple := fun p hp => by
    rw [List.mem_singleton.mp hp]
    trivial
  obtain ⟨gate, hgate, hstarts⟩ : ∃ gate : Option Regex,
      (if r.opening = [] then .ok none
        else (compilePattern r.source r.openingPattern).map some) = Except.ok gate ∧
      ∀ rest, gate.all (·.matchesStart (r.opening ++ rest)) = true := by
    split
    · exact ⟨none, rfl, fun _ => rfl⟩
    · obtain ⟨regex, hregex, hmatch⟩ := compile_opening (hsimple r.opening)
      refine ⟨some regex, ?_, fun rest => (hmatch _).mpr ⟨_, rest, rfl, (cut_text _ _).mpr rfl⟩⟩
      rw [compilePattern, Rules.openingPattern, hpattern, hregex]
      rfl
  obtain ⟨regexes, hregexes, hlines⟩ : ∃ regexes : List Regex,
      (r.templates.mapM fun t => compilePattern r.source (r.linePattern t)) = .ok regexes ∧
      List.Forall₂ (fun t regex => ∀ line, regex.matchesSpan line = true ↔ line = r.opening ++ t)
        r.templates regexes := by
    refine exists_mapM_ok fun t _ => ?_
    obtain ⟨regex, hregex, hmatch⟩ := compile_line (hsimple (r.opening ++ t))
    refine ⟨regex, ?_, fun line => (hmatch line).trans (cut_text _ line)⟩
    rw [compilePattern, Rules.linePattern, hpattern, hregex]
    rfl
  refine ⟨_, ofRules_eq hgate hregexes, fun line => ?_⟩
  have hany : regexes.any (·.matchesSpan line) = true ↔
      ∃ t ∈ r.templates, line = r.opening ++ t :=
    any_iff_of_forall₂ (hlines.imp fun _ _ h => h line)
  rw [knows, Bool.and_eq_true, hany]
  refine ⟨fun h => h.2, fun h => ⟨?_, h⟩⟩
  obtain ⟨t, -, rfl⟩ := h
  exact hstarts t

/-- A document that has nothing but templates and samples is loaded by compiling the templates. -/
theorem ofText_of_templates {text policy : Text} {templates samples : List Text}
    (hparse : Document.parse text = .ok { templates, samples })
    (hpolicy : (RepeatPolicy.ofText? policy).isSome) {globals : Assoc Field} {source : Option Text}
    {rs : RuleSet} (hrs : ofRules { source, globals, templates, samples } = .ok rs) :
    (ofText globals source policy text).outcome.1 = .ok rs := by
  obtain ⟨log, hload⟩ := ofText_of_document hparse rfl hpolicy globals source
  rw [hload]
  change ((Logged.ofExcept id (ofRules { source, globals, templates, samples }) :
    Loading RuleSet) log).1 = _
  rw [hrs]
  rfl

/-- **Rules that are copied lines** can be loaded, whatever the lines consist of, as long as none of
them holds a line end or is a separator.  They know the lines without the white space around them,
but for blank ones and those that begin with a number sign, and they know nothing else.  So of any
texts, in batches of any size, those are handed out that are not blank and have not been copied. -/
theorem copied_lines_known {lines : List Text}
    (hends : ∀ line ∈ lines, .char '\r' ∉ line ∧ .char '\n' ∉ line)
    (hdashed : ∀ line ∈ lines, ¬ Document.Dashed line) (source : Option Text) {policy : Text}
    (hpolicy : (RepeatPolicy.ofText? policy).isSome) :
    ∃ rs, (ofText [] source policy
        (Text.join [.char '\n'] (Text.ofString "---" :: lines))).outcome.1 = .ok rs ∧
      (∀ x, rs.knows x = true ↔
        (∃ line ∈ lines, line.strip = x) ∧ x ≠ [] ∧ x.head? ≠ some (.char '#')) ∧
      ∀ (size : Int) (texts : List Text), 1 ≤ size → ∃ kept received,
        Scan.run [rs] size Scan.keeping 0 (Scan.numbered (texts.map .ok)) [] =
          { state := kept, taken := texts.length, received, failure := none } ∧
        kept.flatten = (texts.map Text.strip).filter fun x =>
          x ≠ [] ∧ ¬ ((∃ line ∈ lines, line.strip = x) ∧ x.head? ≠ some (.char '#')) := by
  obtain ⟨rs, hrs, hknows⟩ := knows_without_fields
    (r := { source, templates := Document.entries lines }) rfl rfl
  have hcopied (x : Text) : rs.knows x = true ↔
      (∃ line ∈ lines, line.strip = x) ∧ x ≠ [] ∧ x.head? ≠ some (.char '#') := by
    rw [hknows, ← Document.mem_entries]
    exact ⟨fun ⟨t, ht, hx⟩ => hx ▸ ht, fun hx => ⟨x, hx, rfl⟩⟩
  refine ⟨rs, ofText_of_templates (Document.parse_below_separator hends hdashed) hpolicy hrs,
    hcopied, fun size texts hsize => ?_⟩
  obtain ⟨kept, received, hrun, hkept, -⟩ := Scan.run_texts [rs] hsize texts
  refine ⟨kept, received, hrun, hkept.trans (List.filter_congr fun x _ => ?_)⟩
  have hunknown : Scan.isUnknown [rs] x = true ↔
      x ≠ [] ∧ ¬ ((∃ line ∈ lines, line.strip = x) ∧ x.head? ≠ some (.char '#')) := by
    rw [Scan.isUnknown, anyKnows, List.any_cons, List.any_nil, Bool.or_false, Bool.and_eq_true,
      decide_eq_true_eq, Bool.not_eq_true', Bool.eq_false_iff, ne_eq (rs.knows x), hcopied]
    exact and_congr_right fun hx => not_congr (and_congr_right fun _ => and_iff_right hx)
  rw [Bool.eq_iff_iff, hunknown, decide_eq_true_eq]

/-- Lines with a backslash in front of a digit, with blanks around and with a number sign; of two
texts the one that was copied is not handed out. -/
theorem copied_lines_known_backslash :
    (∀ line ∈ [Text.ofString "\ta\\1 ", Text.ofString "#b"],
        .char '\r' ∉ line ∧ .char '\n' ∉ line) ∧
      (∀ line ∈ [Text.ofString "\ta\\1 ", Text.ofString "#b"], ¬ Document.Dashed line) ∧
      (RepeatPolicy.ofText? "warn").isSome ∧
      ∃ rs, (ofText [] none "warn" (Text.ofString "---\n\ta\\1 \n#b")).outcome.1 = .ok rs ∧
        rs.knows (Text.ofString "a\\1") = true ∧ rs.knows (Text.ofString "#b") = false ∧
        ∃ kept received, Scan.run [rs] 1 Scan.keeping 0
            (Scan.numbered ([Text.ofString "a\\1\n", Text.ofString " #b"].map .ok)) [] =
          { state := kept, taken := 2, received, failure := none } ∧
          kept.flatten = [Text.ofString "#b"] := by
  have hends : ∀ line ∈ [Text.ofString "\ta\\1 ", Text.ofString "#b"],
      .char '\r' ∉ line ∧ .char '\n' ∉ line := by decide
  have hdashed : ∀ line ∈ [Text.ofString "\ta\\1 ", Text.ofString "#b"],
      ¬ Document.Dashed line := by
    simp only [← Document.isSeparator_iff]
    decide
  have hpolicy : (RepeatPolicy.ofText? "warn").isSome := by decide
  obtain ⟨rs, hload, hknows, hrun⟩ := copied_lines_known hends hdashed none hpolicy
  obtain ⟨kept, received, htaken, hkept⟩ :=
    hrun 1 [Text.ofString "a\\1\n", Text.ofString " #b"] (by decide)
  refine ⟨hends, hdashed, hpolicy, rs, hload, (hknows _).mpr (by decide), ?_, kept, received,
    htaken, hkept.trans (by decide)⟩
  exact Bool.eq_false_iff.mpr (mt (hknows _).mp (by decide))

end LineSift.RuleSet
