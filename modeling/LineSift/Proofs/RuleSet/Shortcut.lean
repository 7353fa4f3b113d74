import LineSift.Proofs.Regex.Continued
import LineSift.Proofs.RuleSet.Static

/-!
# The pattern for the beginning as a shortcut

A known line is matched by the pattern for one of the templates over its full span.  The converse
holds for a template whose pattern goes on behind the pattern for the beginning (`FollowsOpening`):
what the longer pattern matches begins with a match of the shorter one, so nothing is lost by asking
that one first (`gate_is_shortcut`).  Fields are put into the opening text alone in the one pattern
and into the opening text and the template in the other one, and what stands there can mean
something else together; then the line is rejected at its beginning, although the pattern for the
template matches it (`gate_rejects`).
-/

namespace LineSift

namespace Regex

/-- What a pattern matches that goes on behind another one begins with a match of that one. -/
theorem matchesStart_of_matchesSpan {gate regex : Regex} {line : Text}
    (h : gate.node.ContinuedBy regex.node) (hspan : regex.matchesSpan line = true) :
    gate.matchesStart line = true := by
  rw [matchesSpan_iff] at hspan
  unfold Node.matchFrom at hspan
  unfold matchesStart Node.matchFrom
  rw [Option.isSome_map]
  refine h.isSome_run ?_
  obtain ⟨progress, hrun, -⟩ := Option.map_eq_some_iff.mp hspan
  rw [hrun]
  rfl

end Regex

namespace RuleSet

/-- There is no opening text, or the pattern for a template goes on behind the pattern for the
beginning. -/
def FollowsOpening (rs : RuleSet) (regex : Regex) : Prop :=
  rs.opening = [] ∨ ∃ gate rest, rs.openingRegex = some gate ∧
    regex.pattern = gate.pattern ++ rest ∧
    Regex.Continues gate.pattern rest

variable {r : Rules} {rs : RuleSet} {line : Text}

/-- **The pattern for the beginning is a shortcut.**  A known line is matched over its full span by
the pattern for some template; and a line that is matched so is known, if that pattern goes on
behind the pattern for the beginning. -/
theorem gate_is_shortcut (h : ofRules r = .ok rs) (line : Text) :
    (rs.knows line = true → ∃ regex ∈ rs.regexes, regex.matchesSpan line = true) ∧
      ∀ regex ∈ rs.regexes, regex.matchesSpan line = true → rs.FollowsOpening regex →
        rs.knows line = true := by
  refine ⟨fun hknows => ?_, fun regex hmem hspan hfollows => ?_⟩
  · rw [knows, Bool.and_eq_true] at hknows
    exact List.any_eq_true.mp hknows.2
  · rw [knows, Bool.and_eq_true]
    refine ⟨?_, List.any_eq_true.mpr ⟨regex, hmem, hspan⟩⟩
    have hcompiled := compiled_of_ofRules h
    obtain rfl := hcompiled.rules
    by_cases hnil : rs.opening = []
    · rw [hcompiled.unopened hnil]
      rfl
    obtain ⟨gate, rest, hgate, hpattern, hcontinues⟩ := hfollows.resolve_left hnil
    obtain ⟨gate', hgate', hopening⟩ := hcompiled.opening hnil
    obtain rfl := Option.some.inj (hgate.symm.trans hgate')
    obtain ⟨t, -, hline⟩ := exists_of_mem_of_forall₂ hcompiled.regexes hmem
    obtain ⟨hopening, hparsed⟩ := Regex.of_compile_ok hopening
    obtain ⟨hregex, hparsed'⟩ := Regex.of_compile_ok hline
    rw [← hregex, hpattern, hopening] at hparsed'
    rw [hopening] at hcontinues
    rw [hgate]
    exact Regex.matchesStart_of_matchesSpan
      (Regex.parse_continued hparsed hparsed' hcontinues) hspan

/-- It is enough to look at the patterns that are written. -/
theorem followsOpening_of_patterns (h : ofRules r = .ok rs)
    (hpatterns : ∀ t ∈ r.templates, ∃ rest, r.linePattern t = r.openingPattern ++ rest ∧
      Regex.Continues r.openingPattern rest) {regex : Regex} (hmem : regex ∈ rs.regexes) :
    rs.FollowsOpening regex := by
  have hcompiled := compiled_of_ofRules h
  obtain rfl := hcompiled.rules
  refine or_iff_not_imp_left.mpr fun hnil => ?_
  obtain ⟨gate, hgate, hopening⟩ := hcompiled.opening hnil
  obtain ⟨t, ht, hline⟩ := exists_of_mem_of_forall₂ hcompiled.regexes hmem
  obtain ⟨rest, hpattern, hcontinues⟩ := hpatterns t ht
  rw [← (Regex.of_compile_ok hopening).1] at hpattern hcontinues
  rw [← (Regex.of_compile_ok hline).1] at hpattern
  exact ⟨gate, rest, hgate, hpattern, hcontinues⟩

theorem gate_is_shortcut_daemon :
    ∃ rs, ofRules daemonRules = .ok rs ∧ rs.opening ≠ [] ∧
      ∃ regex ∈ rs.regexes, regex.matchesSpan "mail: sshd[7] on mail up" = true ∧
        rs.FollowsOpening regex ∧ rs.knows "mail: sshd[7] on mail up" = true := by
  have hcontinues {rest : Text}
      (hbranches : Regex.branches (daemonRules.openingPattern ++ rest) ≤
        Regex.branches daemonRules.openingPattern)
      (hhead : ((Regex.tokens rest).head?.bind Regex.Token.plain?).any Regex.isSpecial = false)
      (hdigit : rest.head?.any CodePoint.isAsciiDigit = false)
      (hbrace : .plain '\x7d' ∉ Regex.tokens rest) :
      Regex.Continues daemonRules.openingPattern rest := by
    refine ⟨hbranches, Regex.not_beginsRepetition hhead, fun d hd => ?_,
      Regex.not_endsInBounds _ hbrace⟩
    rw [hd] at hdigit
    exact Regex.not_endsOpenTo _ hdigit
  have hpatterns : ∀ t ∈ daemonRules.templates, ∃ rest,
      daemonRules.linePattern t = daemonRules.openingPattern ++ rest ∧
        Regex.Continues daemonRules.openingPattern rest := by
    intro t ht
    rcases List.mem_cons.mp ht with rfl | ht
    · exact ⟨"sshd\\[\\d\\]\\ on\\ \\w+\\ up\\Z", by decide +kernel,
        hcontinues (by decide +kernel) (by decide) (by decide) (by decide)⟩
    · obtain rfl := List.mem_singleton.mp ht
      exact ⟨"\\\\\\[\\d\\]\\Z", by decide +kernel,
        hcontinues (by decide +kernel) (by decide) (by decide) (by decide)⟩
  obtain ⟨rs, hrs, hknows⟩ := exists_of_knownBy (r := daemonRules) "mail: sshd[7] on mail up"
    (by decide +kernel)
  obtain ⟨regex, hmem, hspan⟩ := (gate_is_shortcut hrs "mail: sshd[7] on mail up").1 hknows
  have hfollows := followsOpening_of_patterns hrs hpatterns hmem
  refine ⟨rs, hrs, ?_, regex, hmem, hspan, hfollows,
    (gate_is_shortcut hrs "mail: sshd[7] on mail up").2 regex hmem hspan hfollows⟩
  rw [(compiled_of_ofRules hrs).rules]
  decide

/-- Rules that compile to a rule set which does not know a line, although the pattern for one of the
templates matches it over its full span. -/
def Rejects (r : Rules) (line : Text) : Prop :=
  ∃ rs, ofRules r = .ok rs ∧ rs.knows line = false ∧
    ∃ regex ∈ rs.regexes, regex.matchesSpan line = true

/-- Whether compiled rules reject a line that one of their patterns matches. -/
def rejects (r : Rules) (line : Text) : Bool :=
  match ofRules r with
  | .ok rs => !rs.knows line && rs.regexes.any (·.matchesSpan line)
  | .error _ => false

theorem rejects_iff (r : Rules) (line : Text) : rejects r line = true ↔ Rejects r line := by
  unfold rejects Rejects
  cases ofRules r with
  | error e => simp
  | ok rs => simp

instance (r : Rules) (line : Text) : Decidable (Rejects r line) :=
  decidable_of_iff _ (rejects_iff r line)

/-- A field for a digit, with a template of two letters. -/
def seamField : Field :=
  { name := "seam", template := "ab", samples := [],
    regex := { pattern := "\\d", node := .char (.ofCategory .digit false false) } }

/-- A field whose pattern is a repetition. -/
def crossesField : Field :=
  { name := "crosses", template := "N", samples := [],
    regex := { pattern := "x*", node := .charRun .greedy 0 none (.literal .exact 'x') } }

/-- A field that takes a letter away, from the patterns of other fields too. -/
def blankField : Field :=
  { name := "blank", template := "x", samples := [], regex := { pattern := "", node := .empty } }

/-- A field whose pattern ends with a brace and a number. -/
def openField : Field :=
  { name := "open", template := "M", samples := [],
    regex := {
      pattern := "\x7b0"
      node := .seq (.char (.literal .exact '\x7b')) (.char (.literal .exact '0')) } }

/-- A field whose pattern is a brace. -/
def closeField : Field :=
  { name := "close", template := "K", samples := [],
    regex := { pattern := "\x7d", node := .char (.literal .exact '\x7d') } }

/-- A line can be rejected at its beginning: where a field stands across the end of the opening
text, where the template has an alternative of its own, where it repeats the end of the opening
text, where it adds a digit to a number there, and where it closes a brace there. -/
theorem gate_rejects :
    Rejects { opening := "a", fields := [("seam", seamField)], templates := ["bc"] } "5c" ∧
    Rejects { opening := "P", fields := [("letter", letterField)], templates := ["N"] } "y" ∧
    Rejects { opening := "a", fields := [("crosses", crossesField)],
              globals := [("blank", blankField)], templates := ["N"] } "" ∧
    Rejects { opening := "N", fields := [("null", nullField)], templates := ["1"] } "\x01" ∧
    Rejects { opening := "aM", fields := [("open", openField), ("close", closeField)],
              templates := ["K"] } "" := by
  decide +kernel

end RuleSet

end LineSift
