import LineSift.Proofs.Regex.Simple
import LineSift.Proofs.RuleSet.Substitution
import LineSift.Proofs.RuleSet.View
import LineSift.Proofs.Traversal

/-!
# What rules with simple fields mean

A line is known by rules with simple fields just if it can be cut into pieces, one for each part of
the opening text and of a template: a text stands for itself, and a field for code points that its
matcher admits, as many as its repetition allows (`knows_iff_pieces`).  This takes that fields are
found in the opening text and in the templates alone, and not in patterns that have been put in
before, or across the seam between the opening text and a template.
-/

namespace LineSift.RuleSet

open Regex (simple? quotedToken tokens Covers Follows)
open Regex.Parse (Completes)

namespace Part

/-- A text, or a field whose pattern is simple. -/
def IsSimple : Part → Prop
  | .text _ => True
  | .field f _ => (simple? f.regex.pattern).isSome

/-- What a part is read as in a pattern. -/
def items : Part → List Regex.Item
  | .text t => t.map fun c => .char (.literal .exact c)
  | .field f _ =>
    match simple? f.regex.pattern with
    | some (t, q) => [q.item t]
    | none => []

/-- The pieces of a line that a part stands for. -/
def Admits : Part → Text → Prop
  | .text t, piece => piece = t
  | .field f _, piece => ∃ t q, simple? f.regex.pattern = some (t, q) ∧ q.admits piece.length ∧
      ∀ c ∈ piece, t.test c = true

/-- A part is read in front of others as it is by itself. -/
theorem IsSimple.completes {p : Part} (h : p.IsSimple) :
    .dangling ∉ tokens p.pattern ∧ (∀ ts, Follows ts → Follows (tokens p.pattern ++ ts)) ∧
      ∀ read ts x, Follows ts → Completes (p.items.reverse ++ read) ts x →
        Completes read (tokens p.pattern ++ ts) x := by
  cases p with
  | text t =>
    have htokens : tokens (Part.text t).pattern = t.map quotedToken := Regex.tokens_quote t
    refine ⟨Regex.dangling_not_mem_quote t, fun ts hts => ?_, fun read ts x hts hx => ?_⟩
    · rw [htokens]
      exact Regex.follows_quoted t hts
    · rw [htokens]
      exact Regex.completes_quoted t hts hx
  | field f isGlobal =>
    obtain ⟨⟨t, q⟩, hs⟩ := Option.isSome_iff_exists.mp h
    obtain ⟨hdangling, hfollows, hcompletes⟩ := Regex.completes_simple hs
    refine ⟨hdangling, fun ts _ => hfollows ts, fun read ts x hts hx => ?_⟩
    rw [items, hs] at hx
    exact hcompletes read ts x hts hx

theorem IsSimple.covers {p : Part} (h : p.IsSimple) {line : Text} :
    Covers line (Regex.Node.ofList (p.items.map Regex.Item.node)) p.Admits := by
  cases p with
  | text t =>
    rw [items, List.map_map]
    exact Regex.covers_literals t
  | field f isGlobal =>
    obtain ⟨⟨t, q⟩, hs⟩ := Option.isSome_iff_exists.mp h
    have hlang : (Part.field f isGlobal).Admits = fun piece =>
        q.admits piece.length ∧ ∀ c ∈ piece, t.test c = true := by
      funext piece
      refine propext ⟨?_, fun hp => ⟨t, q, hs, hp⟩⟩
      rintro ⟨t', q', hs', hp⟩
      cases hs.symm.trans hs'
      exact hp
    rw [hlang, items, hs]
    exact Regex.covers_simple t q

end Part

/-! ## Sequences of parts -/

section

variable {ps : List Part}

/-- A line is cut into pieces, one for each part. -/
def Cut (ps : List Part) (line : Text) : Prop :=
  ∃ pieces, List.Forall₂ Part.Admits ps pieces ∧ pieces.flatten = line

theorem cut_nil : Cut [] = (· = []) := by
  funext line
  refine propext ⟨?_, ?_⟩
  · rintro ⟨pieces, hall, rfl⟩
    cases hall
    rfl
  · rintro rfl
    exact ⟨[], .nil, rfl⟩

theorem cut_cons (p : Part) (ps : List Part) :
    Cut (p :: ps) = Regex.followed p.Admits (Cut ps) := by
  funext line
  refine propext ⟨?_, ?_⟩
  · rintro ⟨pieces, hall, rfl⟩
    cases hall with
    | cons hp hps => exact ⟨_, _, rfl, hp, _, hps, rfl⟩
  · rintro ⟨a, b, rfl, ha, pieces, hall, rfl⟩
    exact ⟨a :: pieces, .cons ha hall, rfl⟩

/-- A line that is cut for parts of two lists begins with a text that is cut for those of
the first. -/
theorem Cut.append_left {qs : List Part} {line : Text} (h : Cut (ps ++ qs) line) :
    ∃ a b, line = a ++ b ∧ Cut ps a := by
  obtain ⟨pieces, hall, rfl⟩ := h
  refine ⟨(pieces.take ps.length).flatten, (pieces.drop ps.length).flatten, ?_, _, ?_, rfl⟩
  · rw [← List.flatten_append, List.take_append_drop]
  · have := List.forall₂_take ps.length hall
    rwa [List.take_left] at this

theorem tokens_patternOf (h : ∀ p ∈ ps, p.IsSimple) {ts : List Regex.Token} (hts : Follows ts) :
    .dangling ∉ tokens (patternOf ps) ∧ Follows (tokens (patternOf ps) ++ ts) ∧
      ∀ read x, Completes ((ps.flatMap Part.items).reverse ++ read) ts x →
        Completes read (tokens (patternOf ps) ++ ts) x := by
  induction ps with
  | nil => exact ⟨List.not_mem_nil, hts, fun read x hx => hx⟩
  | cons p ps ih =>
    obtain ⟨hdangling, hfollows, hcompletes⟩ := (h p List.mem_cons_self).completes
    obtain ⟨hdangling', hfollows', hcompletes'⟩ := ih fun q hq => h q (List.mem_cons_of_mem _ hq)
    have htokens : tokens (patternOf (p :: ps)) = tokens p.pattern ++ tokens (patternOf ps) :=
      Regex.tokens_append hdangling _
    rw [htokens, List.append_assoc]
    refine ⟨?_, hfollows _ hfollows', fun read x hx => ?_⟩
    · exact fun hm => (List.mem_append.mp hm).elim hdangling hdangling'
    · refine hcompletes read _ x hfollows' (hcompletes' _ x ?_)
      rw [List.flatMap_cons, List.reverse_append, List.append_assoc] at hx
      exact hx

theorem covers_parts (h : ∀ p ∈ ps, p.IsSimple) {line : Text} :
    Covers line (Regex.Node.ofList ((ps.flatMap Part.items).map Regex.Item.node)) (Cut ps) := by
  induction ps with
  | nil =>
    rw [cut_nil]
    exact Regex.covers_empty
  | cons p ps ih =>
    rw [cut_cons, List.flatMap_cons, List.map_append]
    exact Regex.covers_append (h p List.mem_cons_self).covers
      (ih fun q hq => h q (List.mem_cons_of_mem _ hq))

/-- The pattern for the beginning of a line matches what begins with a text that is cut for its
parts. -/
theorem compile_opening (h : ∀ p ∈ ps, p.IsSimple) :
    ∃ regex, Regex.compile (Text.ofString "\\A" ++ patternOf ps) = .ok regex ∧
      ∀ line, regex.matchesStart line = true ↔ ∃ a b, line = a ++ b ∧ Cut ps a := by
  have hend : Follows [] := ⟨by simp, by simp, by simp⟩
  obtain ⟨-, hfollows, hcompletes⟩ := tokens_patternOf h hend
  rw [List.append_nil] at hfollows hcompletes
  have htokens : tokens (Text.ofString "\\A" ++ patternOf ps) =
      .escaped 'A' :: tokens (patternOf ps) := Regex.tokens_escaped _ _
  have hread : Completes [] (tokens (Text.ofString "\\A" ++ patternOf ps))
      (.ofSequence
        ((ps.flatMap Part.items).reverse ++ [Regex.Item.anchor .textStart]).reverse) := by
    rw [htokens]
    exact Regex.Parse.completes_token
      (.escape (Regex.Parse.takes_pure (Regex.Item.anchor .textStart) _))
      hfollows.1 (hcompletes _ _ (Regex.Parse.completes_nil _))
  have hparse := Regex.Parse.parse_of_completes (by rw [htokens]; simp) hread
  refine ⟨_, by rw [Regex.compile, hparse]; rfl, fun line => ?_⟩
  rw [← Regex.matchesStart_anchored (Text.ofString "\\A" ++ patternOf ps) (covers_parts h)]
  simp [Regex.Item.ofSequence, Regex.Item.anchor]

/-- The pattern for a line matches what is cut for its parts. -/
theorem compile_line (h : ∀ p ∈ ps, p.IsSimple) :
    ∃ regex, Regex.compile (Text.ofString "\\A" ++ patternOf ps ++ Text.ofString "\\Z") =
        .ok regex ∧
      ∀ line, regex.matchesSpan line = true ↔ Cut ps line := by
  have hend : Follows [.escaped 'Z'] := .cons (by simp) []
  obtain ⟨hdangling, hfollows, hcompletes⟩ := tokens_patternOf h hend
  have htokens : tokens (Text.ofString "\\A" ++ patternOf ps ++ Text.ofString "\\Z") =
      .escaped 'A' :: (tokens (patternOf ps) ++ [Regex.Token.escaped 'Z']) := by
    rw [List.append_assoc]
    exact (Regex.tokens_escaped _ _).trans (congrArg _ (Regex.tokens_append hdangling _))
  have hread : Completes [] (tokens (Text.ofString "\\A" ++ patternOf ps ++ Text.ofString "\\Z"))
      (.ofSequence (.anchor .textEnd ::
        ((ps.flatMap Part.items).reverse ++ [Regex.Item.anchor .textStart])).reverse) := by
    rw [htokens]
    refine Regex.Parse.completes_token
      (.escape (Regex.Parse.takes_pure (Regex.Item.anchor .textStart) _))
      hfollows.1 (hcompletes _ _ ?_)
    exact Regex.Parse.completes_token
      (.escape (Regex.Parse.takes_pure (Regex.Item.anchor .textEnd) _))
      (by simp) (Regex.Parse.completes_nil _)
  have hparse := Regex.Parse.parse_of_completes (by rw [htokens]; simp) hread
  refine ⟨_, by rw [Regex.compile, hparse]; rfl, fun line => ?_⟩
  rw [← Regex.matchesSpan_anchored (Text.ofString "\\A" ++ patternOf ps ++ Text.ofString "\\Z")
    (covers_parts h)]
  simp [Regex.Item.ofSequence, Regex.Item.anchor]

end

/-! ## Rule sets -/

/-- The parts of a template are simple if the fields are. -/
theorem simple_cutAll {isGlobal : Bool} {fs : Assoc Field} {ps : List Part}
    (hfs : ∀ x ∈ fs, (simple? x.2.regex.pattern).isSome) (hps : ∀ p ∈ ps, p.IsSimple) :
    ∀ p ∈ Part.cutAll isGlobal fs ps, p.IsSimple := by
  induction fs generalizing ps with
  | nil => exact hps
  | cons x fs ih =>
    refine ih (fun y hy => hfs y (List.mem_cons_of_mem _ hy)) fun p hp => ?_
    obtain ⟨q, hq, hp⟩ := List.mem_flatMap.mp hp
    cases q with
    | field g isGlobal' =>
      rw [List.mem_singleton.mp hp]
      exact hps _ hq
    | text t =>
      rw [Part.cut] at hp
      split at hp
      · rw [List.mem_singleton.mp hp]
        trivial
      · rcases Part.mem_interleave hp with rfl | ⟨t, -, -, rfl⟩
        · exact hfs x List.mem_cons_self
        · trivial

theorem simple_view {r : Rules}
    (h : ∀ x ∈ r.fields ++ r.globals, (simple? x.2.regex.pattern).isSome) (t : Text) :
    ∀ p ∈ view r t, p.IsSimple := by
  refine simple_cutAll (fun x hx => h x (List.mem_append_right _ hx)) ?_
  refine simple_cutAll (fun x hx => h x (List.mem_append_left _ hx)) fun p hp => ?_
  rw [List.mem_singleton.mp hp]
  trivial

theorem any_iff_of_forall₂ {α β : Type} {holds : α → Prop} {test : β → Bool} {as : List α}
    {bs : List β} (h : List.Forall₂ (fun a b => test b = true ↔ holds a) as bs) :
    bs.any test = true ↔ ∃ a ∈ as, holds a := by
  induction h with
  | nil => simp
  | cons hab _ ih => simp [hab, ih]

/-- Rules are compiled if their patterns are. -/
theorem ofRules_eq {r : Rules} {gate : Option Regex} {regexes : List Regex}
    (hgate : (if r.opening = [] then .ok none
      else (compilePattern r.source r.openingPattern).map some) = Except.ok gate)
    (hregexes : (r.templates.mapM fun t => compilePattern r.source (r.linePattern t)) =
      .ok regexes) :
    ofRules r = .ok { r with openingRegex := gate, regexes } := by
  unfold ofRules
  by_cases h : r.opening = []
  · rw [if_pos h] at hgate ⊢
    cases hgate
    simp only [bind, Except.bind, pure, Except.pure, hregexes]
  · rw [if_neg h] at hgate ⊢
    simp only [bind, Except.bind, pure, Except.pure, hgate, hregexes]

/-- **Rules with simple fields** can be compiled, and know the lines that can be cut into pieces
for the parts of the opening text and of a template.  Fields must be found in the opening text
and in each template alone, and the pattern for both together must be the two patterns one after
the other. -/
theorem knows_iff_pieces {r : Rules}
    (hfields : ∀ x ∈ r.fields ++ r.globals, (simple? x.2.regex.pattern).isSome)
    (hopening : Untouched r r.opening)
    (htemplates : ∀ t ∈ r.templates, Untouched r t ∧
      r.patternFor (r.opening ++ t) = r.patternFor r.opening ++ r.patternFor t) :
    ∃ rs, ofRules r = .ok rs ∧ ∀ line, rs.knows line = true ↔
      ∃ t ∈ r.templates, ∃ pieces,
        List.Forall₂ Part.Admits (view r r.opening ++ view r t) pieces ∧ pieces.flatten = line := by
  have hsimple (t : Text) : ∀ p ∈ view r r.opening ++ view r t, p.IsSimple := fun p hp =>
    (List.mem_append.mp hp).elim (simple_view hfields _ p) (simple_view hfields _ p)
  obtain ⟨gate, hgate, hstarts⟩ : ∃ gate : Option Regex,
      (if r.opening = [] then .ok none
        else (compilePattern r.source r.openingPattern).map some) = Except.ok gate ∧
      ∀ t line, Cut (view r r.opening ++ view r t) line →
        gate.all (·.matchesStart line) = true := by
    split
    · exact ⟨none, rfl, fun _ _ _ => rfl⟩
    · obtain ⟨regex, hregex, hmatch⟩ := compile_opening (simple_view hfields r.opening)
      rw [← patternFor_eq_view hopening] at hregex
      refine ⟨some regex, ?_, fun t line hcut => (hmatch line).mpr hcut.append_left⟩
      rw [compilePattern, Rules.openingPattern, hregex]
      rfl
  obtain ⟨regexes, hregexes, hlines⟩ : ∃ regexes : List Regex,
      (r.templates.mapM fun t => compilePattern r.source (r.linePattern t)) = .ok regexes ∧
      List.Forall₂ (fun t regex => ∀ line, regex.matchesSpan line = true ↔
        Cut (view r r.opening ++ view r t) line) r.templates regexes := by
    refine exists_mapM_ok fun t ht => ?_
    obtain ⟨huntouched, hseam⟩ := htemplates t ht
    obtain ⟨regex, hregex, hmatch⟩ := compile_line (hsimple t)
    refine ⟨regex, ?_, hmatch⟩
    have hpattern : r.patternFor (r.opening ++ t) = patternOf (view r r.opening ++ view r t) := by
      rw [hseam, patternFor_eq_view hopening, patternFor_eq_view huntouched]
      exact List.flatMap_append.symm
    rw [compilePattern, Rules.linePattern, hpattern, hregex]
    rfl
  refine ⟨_, ofRules_eq hgate hregexes, fun line => ?_⟩
  have hany : regexes.any (·.matchesSpan line) = true ↔
      ∃ t ∈ r.templates, Cut (view r r.opening ++ view r t) line :=
    any_iff_of_forall₂ (hlines.imp fun _ _ h => h line)
  rw [knows, Bool.and_eq_true, hany]
  refine ⟨fun h => h.2, fun h => ⟨?_, h⟩⟩
  obtain ⟨t, -, hcut⟩ := h
  exact hstarts t line hcut

/-- A field for digits, with a template of its own. -/
def digitField (template : Text) : Field :=
  { name := "digit", template, samples := [],
    regex := { pattern := "\\d", node := .char (.ofCategory .digit false false) } }

/-- A field for ASCII numerals, which is written as `a`. -/
def numeralField : Field :=
  { name := "numeral", template := "a", samples := [],
    regex :=
      { pattern := "[0-9]+", node := .charRun .greedy 1 none ⟨[.range '0' '9'], false, .exact⟩ } }

/-- Rules for lines such as `x 12:3`. -/
def numeralRules : Rules :=
  { opening := "x ", fields := [("numeral", numeralField)], globals := [("digit", digitField "5")],
    templates := ["a:5"] }

theorem knows_iff_pieces_numeral :
    (∀ x ∈ numeralRules.fields ++ numeralRules.globals, (simple? x.2.regex.pattern).isSome) ∧
      ∃ rs, ofRules numeralRules = .ok rs ∧ ∀ line, rs.knows line = true ↔
        ∃ t ∈ numeralRules.templates, ∃ pieces,
          List.Forall₂ Part.Admits (view numeralRules numeralRules.opening ++ view numeralRules t)
            pieces ∧ pieces.flatten = line :=
  ⟨by decide +kernel, knows_iff_pieces (by decide +kernel) (by decide) (by decide)⟩

/-- Rules without templates, whose fields cannot be put into the opening text one after
the other. -/
def brokenRules : Rules :=
  { opening := "a", fields := [("numeral", numeralField), ("digit", digitField "9")] }

/-- Such rules cannot be compiled. -/
theorem brokenRules_not_compiled :
    (∀ x ∈ brokenRules.fields ++ brokenRules.globals,
      x.2.template ≠ [] ∧ (simple? x.2.regex.pattern).isSome) ∧
    (∀ t ∈ brokenRules.templates, Untouched brokenRules brokenRules.opening ∧
      Untouched brokenRules t ∧ brokenRules.patternFor (brokenRules.opening ++ t) =
        brokenRules.patternFor brokenRules.opening ++ brokenRules.patternFor t) ∧
    ¬ ∃ rs, ofRules brokenRules = .ok rs := by
  refine ⟨by decide +kernel, by decide, ?_⟩
  rintro ⟨rs, h⟩
  have hfail : ∃ e, ofRules brokenRules = .error e := ⟨_, rfl⟩
  obtain ⟨e, he⟩ := hfail
  rw [he] at h
  cases h

end LineSift.RuleSet
