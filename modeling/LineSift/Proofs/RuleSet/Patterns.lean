import LineSift.Proofs.RuleSet.Substitution
import LineSift.Proofs.Traversal

/-!
# The patterns of a compiled rule set

Compiling keeps the rules as they are and compiles one pattern for each template
(`compiled_of_ofRules`).  So what is known about the text of a pattern is known of the rule set: if
each field is found in the opening text and the template alone, the pattern for a line is written as
a reader sees the template, part by part, between the anchors for the beginning and the end
(`regexes_eq_view`).
-/

namespace LineSift

/-- A compiled pattern keeps its text and what it was read as. -/
theorem Regex.of_compile_ok {pattern : Text} {regex : Regex}
    (h : Regex.compile pattern = .ok regex) :
    regex.pattern = pattern ∧ Regex.parse pattern = .ok regex.node := by
  unfold Regex.compile at h
  cases hp : Regex.parse pattern with
  | error e =>
    rw [hp] at h
    cases h
  | ok node =>
    rw [hp] at h
    cases h
    exact ⟨rfl, rfl⟩

namespace RuleSet

theorem compile_of_compilePattern {source : Option Text} {pattern : Text} {regex : Regex}
    (h : compilePattern source pattern = .ok regex) : Regex.compile pattern = .ok regex := by
  unfold compilePattern at h
  cases hc : Regex.compile pattern with
  | error e =>
    rw [hc] at h
    cases h
  | ok regex' =>
    rw [hc] at h
    cases h
    rfl

theorem bind_eq_ok {α β ε : Type} {x : Except ε α} {f : α → Except ε β} {b : β}
    (h : x >>= f = .ok b) : ∃ a, x = .ok a ∧ f a = .ok b := by
  cases x with
  | error e => cases h
  | ok a => exact ⟨a, rfl, h⟩

/-- What rules have been compiled to. -/
structure Compiled (r : Rules) (rs : RuleSet) : Prop where
  /-- The rules are kept. -/
  rules : rs.toRules = r
  /-- Without an opening text, every beginning will do. -/
  unopened : r.opening = [] → rs.openingRegex = none
  /-- An opening text has a pattern. -/
  opening : r.opening ≠ [] →
    ∃ gate, rs.openingRegex = some gate ∧ Regex.compile r.openingPattern = .ok gate
  /-- There is one pattern for each template. -/
  regexes : List.Forall₂ (fun t regex => Regex.compile (r.linePattern t) = .ok regex) r.templates
    rs.regexes

theorem compiled_of_ofRules {r : Rules} {rs : RuleSet} (h : ofRules r = .ok rs) :
    Compiled r rs := by
  have hrest {gate : Option Regex}
      (h : (r.templates.mapM fun t => compilePattern r.source (r.linePattern t)) >>=
        (fun regexes => pure { r with openingRegex := gate, regexes }) = Except.ok rs) :
      rs.toRules = r ∧ rs.openingRegex = gate ∧
        List.Forall₂ (fun t regex => Regex.compile (r.linePattern t) = .ok regex) r.templates
          rs.regexes := by
    obtain ⟨regexes, hregexes, h⟩ := bind_eq_ok h
    cases h
    exact ⟨rfl, rfl, (mapM_eq_ok_iff.mp hregexes).imp fun t regex ht =>
      compile_of_compilePattern ht⟩
  unfold ofRules at h
  dsimp only at h
  split at h
  · next hopening =>
    obtain ⟨gate, hgate, h⟩ := bind_eq_ok h
    cases hgate
    obtain ⟨hrules, hnone, hregexes⟩ := hrest h
    exact ⟨hrules, fun _ => hnone, fun hne => absurd hopening hne, hregexes⟩
  · next hopening =>
    obtain ⟨gate, hgate, h⟩ := bind_eq_ok h
    obtain ⟨hrules, hsome, hregexes⟩ := hrest h
    cases hcompile : compilePattern r.source r.openingPattern with
    | error e =>
      rw [hcompile] at hgate
      cases hgate
    | ok regex =>
      rw [hcompile] at hgate
      cases hgate
      exact ⟨hrules, fun hnil => absurd hnil hopening,
        fun _ => ⟨regex, hsome, compile_of_compilePattern hcompile⟩, hregexes⟩

/-- A compiled rule set has the rules it was made from, with one compiled pattern for
each template. -/
theorem regexes_of_ofRules {r : Rules} {rs : RuleSet} (h : ofRules r = .ok rs) :
    rs.toRules = r ∧
      List.Forall₂ (fun t regex => Regex.compile (r.linePattern t) = .ok regex) r.templates
        rs.regexes :=
  ⟨(compiled_of_ofRules h).rules, (compiled_of_ofRules h).regexes⟩

/-- **The view and the pattern agree.**  In a compiled rule set, the pattern for a template in which
each field is found in the opening text and the template alone is the view of both, written part by
part: texts are quoted and fields stand as their patterns. -/
theorem regexes_eq_view {r : Rules} {rs : RuleSet} (h : ofRules r = .ok rs) :
    List.Forall₂ (fun t regex => Untouched rs.toRules (rs.opening ++ t) →
        regex.pattern = Text.ofString "\\A" ++
          (view rs.toRules (rs.opening ++ t)).flatMap Part.pattern ++ Text.ofString "\\Z")
      rs.templates rs.regexes := by
  obtain ⟨rfl, hregexes⟩ := regexes_of_ofRules h
  refine hregexes.imp fun t regex hregex huntouched => ?_
  have hparts : rs.patternFor (rs.opening ++ t) =
      (view rs.toRules (rs.opening ++ t)).flatMap Part.pattern := patternFor_eq_view huntouched
  rw [(Regex.of_compile_ok hregex).1, Rules.linePattern, hparts]

/-- A field for names of hosts. -/
def hostField : Field :=
  { name := "host", template := "mail.example", samples := [],
    regex :=
      { pattern := "\\w+", node := .charRun .greedy 1 none (.ofCategory .word false false) } }

/-- A field for process numbers. -/
def processField : Field :=
  { name := "process", template := "[1]", samples := [],
    regex := {
      pattern := "\\[\\d\\]"
      node := .seq (.char (.literal .exact '['))
        (.seq (.char (.ofCategory .digit false false)) (.char (.literal .exact ']'))) } }

/-- Rules for lines such as `mail: sshd[7] on mail up`. -/
def daemonRules : Rules :=
  { opening := "mail.example: ", fields := [("process", processField)],
    globals := [("host", hostField)], templates := ["sshd[1] on mail.example up", "\\[1]"] }

theorem regexes_eq_view_daemon :
    (∀ t ∈ daemonRules.templates, Untouched daemonRules (daemonRules.opening ++ t)) ∧
      ∃ rs, ofRules daemonRules = .ok rs ∧
        List.Forall₂ (fun t regex => Untouched rs.toRules (rs.opening ++ t) →
          regex.pattern = Text.ofString "\\A" ++
            (view rs.toRules (rs.opening ++ t)).flatMap Part.pattern ++ Text.ofString "\\Z")
          rs.templates rs.regexes := by
  refine ⟨by decide, ?_⟩
  have hok : (ofRules daemonRules).isOk = true := by decide +kernel
  cases h : ofRules daemonRules with
  | error e =>
    rw [h] at hok
    cases hok
  | ok rs => exact ⟨rs, rfl, regexes_eq_view h⟩

end RuleSet

end LineSift
