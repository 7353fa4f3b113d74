import LineSift.Proofs.Rules.Document
import LineSift.Proofs.Text.Lines
import Mathlib.Data.List.TakeWhile

/-!
# The sections of a rules file

A separator is a line of three or more dashes with spaces and tabs around (`isSeparator_iff`).  What
stands behind the first one, up to the next, is taken line by line: lines without line ends that are
no separators come back as the templates of the document, each without the white space around it,
and only blank lines and those that begin with a number sign are left out (`parse_below_separator`).

In general lines are divided by the first two separators, and those behind the second are separators
no more (`Divided`).  However the lines are ended, the header alone decides whether they can be read
and what the options and fields are, and the other two sections are the templates and the samples
(`parse_divided`).
-/

namespace LineSift.Document

/-- A line of three or more dashes, with nothing but spaces and tabs around. -/
def Dashed (line : Text) : Prop :=
  ∃ (before after : Text) (n : Nat), line = before ++ List.replicate (n + 3) (.char '-') ++ after ∧
    (∀ c ∈ before, c.isBlank) ∧ ∀ c ∈ after, c.isBlank

theorem isBlank_dash : CodePoint.isBlank (.char '-') = false := by decide

/-- The separators are the lines of dashes. -/
theorem isSeparator_iff (line : Text) : isSeparator line = true ↔ Dashed line := by
  constructor
  · intro h
    rw [isSeparator, Bool.and_eq_true, decide_eq_true_eq, List.all_eq_true] at h
    obtain ⟨hcount, hafter⟩ := h
    set dashes := line.dropWhile CodePoint.isBlank
    have hline : line.takeWhile CodePoint.isBlank ++ dashes = line :=
      List.takeWhile_append_dropWhile
    have hdashes :
        dashes.takeWhile (· == .char '-') ++ dashes.dropWhile (· == .char '-') = dashes :=
      List.takeWhile_append_dropWhile
    have hrun : dashes.takeWhile (· == .char '-') =
        List.replicate (dashes.takeWhile (· == .char '-')).length (.char '-') :=
      List.eq_replicate_of_mem fun c hc =>
        eq_of_beq (List.mem_takeWhile_imp (p := (· == CodePoint.char '-')) hc)
    have hlength := congrArg List.length hdashes
    rw [List.length_append] at hlength
    obtain ⟨n, hn⟩ : ∃ n, (dashes.takeWhile (· == .char '-')).length = n + 3 :=
      ⟨(dashes.takeWhile (· == .char '-')).length - 3, by omega⟩
    refine ⟨line.takeWhile CodePoint.isBlank, _, n, ?_, fun c hc => List.mem_takeWhile_imp hc,
      hafter⟩
    rw [← hn, ← hrun, List.append_assoc, hdashes, hline]
  · rintro ⟨before, after, n, rfl, hbefore, hafter⟩
    have hstart : (before ++ List.replicate (n + 3) (CodePoint.char '-') ++ after).dropWhile
        CodePoint.isBlank = List.replicate (n + 3) (.char '-') ++ after := by
      rw [List.append_assoc, List.dropWhile_append_of_pos hbefore, List.replicate_succ,
        List.cons_append, List.dropWhile_cons_of_neg (by simp [isBlank_dash])]
    have hrest : (List.replicate (n + 3) (CodePoint.char '-') ++ after).dropWhile (· == .char '-') =
        after := by
      rw [List.dropWhile_append_of_pos fun c hc => beq_iff_eq.mpr (List.eq_of_mem_replicate hc)]
      cases after with
      | nil => rfl
      | cons c after =>
        refine List.dropWhile_cons_of_neg fun hc => ?_
        have hblank := hafter c List.mem_cons_self
        rw [eq_of_beq hc, isBlank_dash] at hblank
        cases hblank
    rw [isSeparator, hstart, hrest, Bool.and_eq_true, decide_eq_true_eq, List.all_eq_true]
    refine ⟨?_, hafter⟩
    rw [List.length_append, List.length_replicate]
    omega

/-- Tabs make no difference to separators. -/
theorem isSeparator_expandTabs (line : Text) : isSeparator line.expandTabs = isSeparator line := by
  have hlength (t : Text) : t.length - (t.dropWhile (· == .char '-')).length =
      (t.takeWhile (· == .char '-')).length := by
    have hwhole := congrArg List.length
      (List.takeWhile_append_dropWhile (p := (· == CodePoint.char '-')) (l := t))
    rw [List.length_append] at hwhole
    omega
  obtain ⟨col, hdashes⟩ := Text.dropWhile_expandTabsFrom (p := CodePoint.isBlank) rfl 0 line
  obtain ⟨col', hrest⟩ := Text.dropWhile_expandTabsFrom (p := (· == CodePoint.char '-')) rfl col
    (line.dropWhile CodePoint.isBlank)
  unfold isSeparator
  simp only [hlength]
  rw [Text.expandTabs, hdashes, hrest, Text.takeWhile_expandTabsFrom rfl rfl,
    Text.all_expandTabsFrom rfl]

/-- What counts of a section: its lines without the white space around them, but for blank lines and
those that begin with a number sign. -/
theorem mem_entries {lines : List Text} {x : Text} :
    x ∈ entries lines ↔ (∃ line ∈ lines, line.strip = x) ∧ x ≠ [] ∧ x.head? ≠ some (.char '#') := by
  rw [entries, List.mem_filter, List.mem_map, decide_eq_true_eq]

/-- Lines below a separator, none of which is a separator, are the templates of the document. -/
theorem parse_below_separator {lines : List Text}
    (hends : ∀ line ∈ lines, .char '\r' ∉ line ∧ .char '\n' ∉ line)
    (hdashed : ∀ line ∈ lines, ¬ Dashed line) :
    parse (Text.join [.char '\n'] (Text.ofString "---" :: lines)) =
      .ok { templates := entries lines } := by
  have hlines : (Text.join [.char '\n'] (Text.ofString "---" :: lines)).lines =
      Text.ofString "---" :: lines :=
    Text.lines_join (List.cons_ne_nil _ _) (List.forall_mem_cons.mpr ⟨by decide, hends⟩)
  have hbehind : cutAtSeparator lines = (lines, []) :=
    cutAtSeparator_of_none fun line hline =>
      Bool.eq_false_iff.mpr (mt (isSeparator_iff line).mp (hdashed line hline))
  have hcut : cutAtSeparator (Text.ofString "---" :: lines) = ([], lines) := by
    rw [cutAtSeparator, if_pos (by decide)]
  rw [parse, hlines, hcut]
  simp only [hbehind]
  rfl

/-! ## Three sections -/

/-- Lines divided by their first two separators into the header, the templates and the samples. -/
inductive Divided : List Text → List Text → List Text → List Text → Prop
  | header {header : List Text} : (∀ line ∈ header, ¬ Dashed line) → Divided header header [] []
  | templates {header templates : List Text} {first : Text} :
      (∀ line ∈ header, ¬ Dashed line) → Dashed first → (∀ line ∈ templates, ¬ Dashed line) →
      Divided (header ++ first :: templates) header templates []
  | samples {header templates samples : List Text} {first second : Text} :
      (∀ line ∈ header, ¬ Dashed line) → Dashed first → (∀ line ∈ templates, ¬ Dashed line) →
      Dashed second →
      Divided (header ++ first :: (templates ++ second :: samples)) header templates samples

theorem isSeparator_eq_false {lines : List Text} (h : ∀ line ∈ lines, ¬ Dashed line) :
    ∀ line ∈ lines, isSeparator line = false :=
  fun line hline => Bool.eq_false_iff.mpr (mt (isSeparator_iff line).mp (h line hline))

theorem cutAtSeparator_append {lines : List Text} (h : ∀ line ∈ lines, ¬ Dashed line)
    {separator : Text} (hs : Dashed separator) (behind : List Text) :
    cutAtSeparator (lines ++ separator :: behind) = (lines, behind) := by
  induction lines with
  | nil => rw [List.nil_append, cutAtSeparator, if_pos ((isSeparator_iff separator).mpr hs)]
  | cons line lines ih =>
    obtain ⟨hline, hlines⟩ := List.forall_mem_cons.mp h
    rw [List.cons_append, cutAtSeparator, if_neg (mt (isSeparator_iff line).mp hline), ih hlines]

/-- Up to the first separator there is none, and what stands behind it can be anything. -/
theorem cutAtSeparator_cases (lines : List Text) :
    (∀ line ∈ lines, ¬ Dashed line) ∨ ∃ before separator behind,
      lines = before ++ separator :: behind ∧ (∀ line ∈ before, ¬ Dashed line) ∧
        Dashed separator := by
  induction lines with
  | nil => exact .inl (List.forall_mem_nil _)
  | cons line lines ih =>
    by_cases hline : Dashed line
    · exact .inr ⟨[], line, lines, rfl, List.forall_mem_nil _, hline⟩
    · rcases ih with h | ⟨before, separator, behind, rfl, hbefore, hs⟩
      · exact .inl (List.forall_mem_cons.mpr ⟨hline, h⟩)
      · exact .inr ⟨line :: before, separator, behind, rfl,
          List.forall_mem_cons.mpr ⟨hline, hbefore⟩, hs⟩

/-- Lines can always be divided. -/
theorem exists_divided (lines : List Text) :
    ∃ header templates samples, Divided lines header templates samples := by
  rcases cutAtSeparator_cases lines with h | ⟨header, first, behind, rfl, hheader, hfirst⟩
  · exact ⟨lines, [], [], .header h⟩
  · rcases cutAtSeparator_cases behind with
      h | ⟨templates, second, samples, rfl, htemplates, hsecond⟩
    · exact ⟨header, behind, [], .templates hheader hfirst h⟩
    · exact ⟨header, templates, samples, .samples hheader hfirst htemplates hsecond⟩

namespace Divided

variable {lines header templates samples : List Text}

theorem header_not_dashed (h : Divided lines header templates samples) :
    ∀ line ∈ header, ¬ Dashed line := by
  cases h with
  | header h => exact h
  | templates h => exact h
  | samples h => exact h

theorem subset (h : Divided lines header templates samples) : header ⊆ lines := by
  cases h with
  | header => exact List.Subset.refl _
  | templates => exact List.subset_append_left _ _
  | samples => exact List.subset_append_left _ _

/-- The reader of documents divides lines in the same way. -/
theorem cut_eq (h : Divided lines header templates samples) :
    (cutAtSeparator lines).1 = header ∧
      cutAtSeparator (cutAtSeparator lines).2 = (templates, samples) := by
  cases h with
  | header h =>
    rw [cutAtSeparator_of_none (isSeparator_eq_false h)]
    exact ⟨rfl, rfl⟩
  | templates h hfirst ht =>
    rw [cutAtSeparator_append h hfirst]
    exact ⟨rfl, cutAtSeparator_of_none (isSeparator_eq_false ht)⟩
  | samples h hfirst ht hsecond =>
    rw [cutAtSeparator_append h hfirst]
    exact ⟨rfl, cutAtSeparator_append ht hsecond _⟩

end Divided

/-- What a text says is what its lines say. -/
theorem parse_of_lines {text : Text} {lines header templates samples : List Text}
    (hlines : text.lines = lines ∨ lines = [] ∧ text = [])
    (h : Divided lines header templates samples) :
    parse text = (Header.parse (Text.join [.char '\n'] header)).map fun is =>
      { is.foldl add {} with templates := entries templates, samples := entries samples } := by
  obtain ⟨hheader, hrest⟩ := h.cut_eq
  rcases hlines with rfl | ⟨rfl, rfl⟩
  · unfold parse
    simp only [hheader, hrest]
  · obtain rfl : [] = header := hheader
    obtain ⟨rfl, rfl⟩ := Prod.mk.inj hrest
    rfl

theorem lines_of_join {e : Text} (he : Text.IsLineEnd e) {lines : List Text}
    (hends : ∀ line ∈ lines, .char '\r' ∉ line ∧ .char '\n' ∉ line) :
    (Text.join e lines).lines = lines ∨ lines = [] ∧ Text.join e lines = [] := by
  by_cases hnil : lines = []
  · exact .inr ⟨hnil, by rw [hnil]; rfl⟩
  · exact .inl (Text.lines_join_lineEnd he hnil hends)

/-- **Sections and line ends.**  Lines are divided into a header, templates and samples in one way,
and whichever line end stands between them, what is read is the same: the header by itself decides
whether it can be read and gives the options and fields, or the error; the lines of the other two
sections are the templates and the samples, in order, each without the white space around it,
without blank lines and those that begin with a number sign. -/
theorem parse_divided {lines : List Text}
    (hends : ∀ line ∈ lines, .char '\r' ∉ line ∧ .char '\n' ∉ line) :
    (∃ header templates samples, Divided lines header templates samples) ∧
    ∀ {header templates samples : List Text}, Divided lines header templates samples →
      ∀ {e : Text}, Text.IsLineEnd e →
        parse (Text.join e lines) = (parse (Text.join [.char '\n'] header)).map fun d => { d with
          templates := (templates.map Text.strip).filter fun line =>
            line ≠ [] ∧ line.head? ≠ some (.char '#')
          samples := (samples.map Text.strip).filter fun line =>
            line ≠ [] ∧ line.head? ≠ some (.char '#') } := by
  refine ⟨exists_divided lines, fun {header templates samples} h e he => ?_⟩
  have hheader : Divided header header [] [] := .header h.header_not_dashed
  have hheaderEnds : ∀ line ∈ header, .char '\r' ∉ line ∧ .char '\n' ∉ line :=
    fun line hline => hends line (h.subset hline)
  rw [parse_of_lines (lines_of_join he hends) h,
    parse_of_lines (lines_of_join .lineFeed hheaderEnds) hheader]
  cases Header.parse (Text.join [.char '\n'] header) <;> rfl

section Examples

open Text (ofString)

/-- A string over two lines in the header, a template with white space of two kinds around it and a
comment, and a third line of dashes, which is a sample. -/
theorem parse_divided_dashes :
    parse (ofString "x = `y\rz`\r --- \r\ta\u00a0\r\r#b\r----\t\r---\r a\r a") =
      .ok { options := [("x", "`y\nz`")], templates := ["a"], samples := ["---", "a", "a"] } := by
  let header : List Text := [ofString "x = `y", ofString "z`"]
  let templates : List Text := [ofString "\ta\u00a0", [], ofString "#b"]
  let samples : List Text := [ofString "---", ofString " a", ofString " a"]
  have hdivided : Divided
      (header ++ ofString " --- " :: (templates ++ ofString "----\t" :: samples)) header templates
      samples := by
    refine .samples ?_ ?_ ?_ ?_
    all_goals
      simp only [← isSeparator_iff]
      decide
  have hends : ∀ line ∈ header ++ ofString " --- " :: (templates ++ ofString "----\t" :: samples),
      .char '\r' ∉ line ∧ .char '\n' ∉ line := by decide
  have hheader : parse (Text.join [.char '\n'] header) =
      .ok { options := [("x", "`y\nz`")] } := by decide +kernel
  have hparse := (parse_divided hends).2 hdivided .carriageReturn
  rw [hheader] at hparse
  exact hparse.trans (by decide +kernel)

end Examples

end LineSift.Document
