import Mathlib.Data.List.Induction
import LineSift.Proofs.Effect
import LineSift.Proofs.Regex.Refusal
import LineSift.Proofs.Value.Range
import LineSift.RuleSet.Load

/-!
# How loading rules fails

Loading the rules of a named source fails with a message that begins with the name, for a fault in
their grammar, in a pattern or in a sample, unless one of their values has an escape that is the
number of no code point, or one of their patterns has a number that is too large or flags that
exclude each other (`ofText_labelled`).  Such a failure is told as it is, without the name
(`number_unlabelled`).  Patterns can be nested to any depth here, so a limit of an interpreter's
stack is not among the reasons.
-/

namespace LineSift

open Text (ofString)
open Effect (mapError_eq_error map_eq_error)

/-! ## Failures of logged work -/

namespace Logged

variable {ε α β δ : Type} {P : ε → Prop}

/-- All failures of some work have a property. -/
def FailsAs (P : ε → Prop) (work : Logged ε α) : Prop :=
  ∀ log log' e, work log = (.error e, log') → P e

theorem failsAs_pure (a : α) : FailsAs P (pure a : Logged ε α) := by
  intro log log' e h
  cases h

theorem failsAs_say (level : Level) (message : Text) :
    FailsAs P (say level message : Logged ε Unit) := by
  intro log log' e h
  cases h

/-- An error that is thrown is the one that is expected. -/
theorem failsAs_throw {e : ε} (h : P e) : FailsAs P (throw e : Logged ε α) := by
  intro log log' e' he
  cases he
  exact h

theorem failsAs_ofExcept {f : δ → ε} {x : Except δ α} (h : ∀ e, x = .error e → P (f e)) :
    FailsAs P (ofExcept f x) := by
  cases x with
  | ok a => exact failsAs_pure a
  | error e => exact failsAs_throw (h e rfl)

/-- Two steps one after the other; the second one need only be known for what the first
one gives. -/
theorem FailsAs.bind {f : Logged ε α} {g : α → Logged ε β} (hf : FailsAs P f)
    (hg : ∀ a, (∃ log log', f log = (.ok a, log')) → FailsAs P (g a)) : FailsAs P (f >>= g) := by
  intro log log' e h
  rcases Effect.bind_cases h with ⟨e', hfails, he⟩ | ⟨a, log₁, hok, hrest⟩
  · cases he
    exact hf _ _ _ hfails
  · exact hg a ⟨log, log₁, hok⟩ _ _ _ hrest

end Logged

open Logged (FailsAs)

/-! ## Fields -/

namespace Field

/-- A field cannot be made from its attributes, and that is not put down to the rules: a value has
an escape out of range, or the pattern has a number that is too large or flags that exclude each
other. -/
inductive Unlabelled (attributes : Assoc Text) : Error → Prop
  | value {key value : Text} (e : Value.Error) : (key, value) ∈ attributes →
      Value.NamesNoCodePoint value → Unlabelled attributes (.badValue e)
  | element {key list value : Text} (e : Value.Error) : (key, list) ∈ attributes →
      value ∈ Value.elements list.strip.tail.dropLast → Value.NamesNoCodePoint value →
      Unlabelled attributes (.badValue e)
  | pattern {pattern : Text} (name : Text) {e : Regex.Error} : e.kind ≠ .pattern →
      Regex.Evident (Regex.tokens pattern) e → Unlabelled attributes (.badPattern pattern name e)

theorem Unlabelled.cons {attributes : Assoc Text} {e : Error} (h : Unlabelled attributes e)
    (x : Text × Text) : Unlabelled (x :: attributes) e := by
  cases h with
  | value e hmem hvalue => exact .value e (List.mem_cons_of_mem _ hmem) hvalue
  | element e hmem helement hvalue => exact .element e (List.mem_cons_of_mem _ hmem) helement hvalue
  | pattern name hkind hevident => exact .pattern name hkind hevident

/-- An attribute is refused by its value, in a documented way or for a number out of range. -/
theorem add_error {name key value : Text} {a : Attributes} {e : Error}
    (h : a.add name key value = .error e) :
    e.kind = .parsing ∨ Unlabelled [(key, value)] e := by
  have hvalue {e' : Value.Error} (he : Value.unquote value = .error e') :
      (Error.badValue e').kind = .parsing ∨ Unlabelled [(key, value)] (.badValue e') :=
    (Value.unquote_error he).imp_right fun hnone => .value e' List.mem_cons_self hnone
  unfold Attributes.add at h
  split at h
  · obtain ⟨e', he, rfl⟩ := mapError_eq_error h
    exact hvalue (map_eq_error he)
  split at h
  · obtain ⟨e', he, rfl⟩ := mapError_eq_error h
    exact hvalue (map_eq_error he)
  split at h
  · obtain ⟨e', he, rfl⟩ := mapError_eq_error h
    refine (Value.unquoteList_error (map_eq_error he)).imp_right fun hnone => ?_
    obtain ⟨s, hs, hnone⟩ := hnone
    exact .element e' List.mem_cons_self hs hnone
  · cases h
    exact Or.inl rfl

/-- Attributes are refused for one of them, by induction on them. -/
theorem readAttributes_error {name : Text} {attributes : Assoc Text} {a : Attributes} {e : Error}
    (h : readAttributes name a attributes = .error e) :
    e.kind = .parsing ∨ Unlabelled attributes e := by
  induction attributes generalizing a with
  | nil => cases h
  | cons x rest ih =>
    obtain ⟨key, value⟩ := x
    rw [readAttributes] at h
    cases hadd : a.add name key value with
    | error e' =>
      rw [hadd] at h
      cases h
      refine (add_error hadd).imp_right fun hbad => ?_
      cases hbad with
      | value e hmem hvalue =>
        cases List.mem_singleton.mp hmem
        exact .value e List.mem_cons_self hvalue
      | element e hmem helement hvalue =>
        cases List.mem_singleton.mp hmem
        exact .element e List.mem_cons_self helement hvalue
      | pattern name hkind hevident => exact .pattern name hkind hevident
    | ok b =>
      rw [hadd] at h
      exact (ih h).imp_right fun hbad => hbad.cons _

theorem ofAttributes_error {name : Text} {attributes : Assoc Text} {e : Error}
    (h : ofAttributes name attributes = .error e) :
    e.kind.concernsRules = true ∨ Unlabelled attributes e := by
  unfold ofAttributes at h
  cases hread : readAttributes name {} attributes with
  | error e' =>
    rw [hread] at h
    cases h
    refine (readAttributes_error hread).imp_left fun hkind => ?_
    rw [hkind]
    rfl
  | ok a =>
    rw [hread] at h
    dsimp only [Except.bind] at h
    split at h
    · cases h
      exact Or.inl rfl
    · obtain ⟨e', he, rfl⟩ := mapError_eq_error h
      by_cases hkind : e'.kind = .pattern
      · refine Or.inl ?_
        rw [Error.kind, if_pos hkind]
        rfl
      · refine Or.inr (.pattern name hkind ?_)
        exact Regex.evident_of_parse_error (map_eq_error (map_eq_error he))

end Field

/-! ## Rule sets -/

namespace RuleSet

/-- Rules cannot be loaded, and that is not put down to them. -/
inductive Unlabelled (d : Document) : Cause → Prop
  | opening {key value : Text} (e : Value.Error) : (key, value) ∈ d.options →
      Value.NamesNoCodePoint value → Unlabelled d (.opening e)
  | field {name : Text} {attributes : Assoc Text} {e : Field.Error} :
    (name, attributes) ∈ d.fields →
      Field.Unlabelled attributes e → Unlabelled d (.field name e)
  | regex {pattern : Text} {e : Regex.Error} : e.kind ≠ .pattern →
      Regex.Evident (Regex.tokens pattern) e → Unlabelled d (.badRegex pattern e)

/-- A failure from a source is put down to the rules, or to a number or to flags in them. -/
structure Told (source : Option Text) (d : Document) (e : Error) : Prop where
  source : e.source = source
  cause : e.cause.kind.concernsRules = true ∨ Unlabelled d e.cause

variable {source : Option Text} {d : Document}

theorem failsAs_readOpening (opening : Text) {options : Assoc Text} (h : options ⊆ d.options) :
    FailsAs (Told source d) (readOpening source opening options) := by
  induction options generalizing opening with
  | nil => exact Logged.failsAs_pure _
  | cons x rest ih =>
    obtain ⟨key, value⟩ := x
    rw [readOpening]
    split
    · refine (Logged.failsAs_ofExcept fun e he => ?_).bind fun t _ => ?_
      · refine ⟨rfl, (Value.unquote_error he).imp (fun hkind => ?_) fun hnone => ?_⟩
        · rw [Cause.kind, hkind]
          rfl
        · exact .opening e (h List.mem_cons_self) hnone
      · exact ih t fun y hy => h (List.mem_cons_of_mem _ hy)
    · exact Logged.failsAs_throw ⟨rfl, Or.inl rfl⟩

/-- A field is refused for its attributes, or for its pattern or samples. -/
theorem failsAs_loadField {name : Text} {attributes : Assoc Text}
    (h : (name, attributes) ∈ d.fields) :
    FailsAs (Told source d) (Field.load (fun e => ⟨source, .field name e⟩) name attributes) := by
  refine (Logged.failsAs_ofExcept fun e he => ?_).bind fun f _ => ?_
  · exact ⟨rfl, (Field.ofAttributes_error he).imp_right fun hbad => .field h hbad⟩
  · dsimp only
    split
    · exact (Logged.failsAs_say _ _).bind fun _ _ => Logged.failsAs_pure _
    · exact Logged.failsAs_pure _

/-- Fields are refused for one of them, by induction on them. -/
theorem failsAs_readFields (read : Assoc Field) {fields : Assoc (Assoc Text)}
    (h : fields ⊆ d.fields) : FailsAs (Told source d) (readFields source read fields) := by
  induction fields generalizing read with
  | nil => exact Logged.failsAs_pure _
  | cons x rest ih =>
    obtain ⟨name, attributes⟩ := x
    rw [readFields]
    refine (failsAs_loadField (h List.mem_cons_self)).bind fun f _ => ?_
    split
    · exact Logged.failsAs_throw ⟨rfl, Or.inl rfl⟩
    · exact ih _ fun y hy => h (List.mem_cons_of_mem _ hy)

theorem compilePattern_told {pattern : Text} {e : Error}
    (h : compilePattern source pattern = .error e) : Told source d e := by
  obtain ⟨e', he, rfl⟩ := mapError_eq_error h
  refine ⟨rfl, ?_⟩
  by_cases hkind : e'.kind = .pattern
  · refine Or.inl ?_
    rw [Cause.kind, if_pos hkind]
    rfl
  · exact Or.inr (.regex hkind (Regex.evident_of_parse_error (map_eq_error he)))

/-- Rules are refused for the pattern of a template. -/
theorem ofRules_told {r : Rules} {e : Error} (h : ofRules r = .error e) : Told r.source d e := by
  unfold ofRules at h
  have hregexes {openingRegex : Option Regex}
      (h : (do
        let regexes ← r.templates.mapM fun t => compilePattern r.source (r.linePattern t)
        return { r with openingRegex, regexes } : Except Error RuleSet) = .error e) :
      Told r.source d e := by
    cases hall : r.templates.mapM fun t => compilePattern r.source (r.linePattern t) with
    | ok regexes =>
      rw [hall] at h
      cases h
    | error e' =>
      rw [hall] at h
      cases h
      obtain ⟨t, -, ht⟩ := exists_of_mapM_error hall
      exact compilePattern_told ht
  split at h
  · exact hregexes h
  · cases hopening : compilePattern r.source r.openingPattern with
    | ok regex =>
      rw [hopening] at h
      exact hregexes h
    | error e' =>
      rw [hopening] at h
      cases h
      exact compilePattern_told hopening

theorem failsAs_reportRepeated (policy : RepeatPolicy) (names : List Text) :
    FailsAs (Told source d) (reportRepeated source policy names) := by
  induction names with
  | nil => exact Logged.failsAs_pure _
  | cons name rest ih =>
    cases policy with
    | refuse => exact Logged.failsAs_throw ⟨rfl, Or.inl rfl⟩
    | warn => exact (Logged.failsAs_say _ _).bind fun _ _ => ih
    | ignore => exact ih

/-- **A document** is refused for its options, its fields or its templates. -/
theorem failsAs_ofDocument (globals : Assoc Field) :
    FailsAs (Told source d) (ofDocument globals source d) := by
  refine (failsAs_readOpening [] (List.Subset.refl _)).bind fun opening _ => ?_
  refine (failsAs_readFields [] (List.Subset.refl _)).bind fun fields _ => ?_
  exact Logged.failsAs_ofExcept fun e he => ofRules_told he

theorem failsAs_ofText (globals : Assoc Field) {policy text : Text}
    (hpolicy : (RepeatPolicy.ofText? policy).isSome) (hparse : Document.parse text = .ok d) :
    FailsAs (Told source d) (ofText globals source policy text) := by
  unfold ofText readDocument
  rw [hparse]
  refine Logged.FailsAs.bind ?_ fun d' hd => ?_
  · refine (Logged.failsAs_ofExcept fun e he => ?_).bind fun d' _ => ?_
    · cases he
    · exact (Logged.failsAs_say _ _).bind fun _ _ => Logged.failsAs_pure _
  · obtain ⟨log, log', hd⟩ := hd
    cases hd
    obtain ⟨p, hp⟩ := Option.isSome_iff_exists.mp hpolicy
    rw [hp]
    exact (failsAs_reportRepeated _ _).bind fun _ _ => failsAs_ofDocument _

theorem concernsRules_iff {k : Kind} :
    k.concernsRules = true ↔ k = .parsing ∨ k = .compiling ∨ k = .validation := by
  cases k <;> simp [Kind.concernsRules]

/-- **Loading rules from a named source** gives a rule set, or it fails for a fault in the rules and
with a message that begins with the name of the source.  Only numbers in values and patterns that
are too large, and flags of patterns that exclude each other, are told in another way. -/
theorem ofText_labelled (globals : Assoc Field) (name text : Text) {policy : Text}
    (hpolicy : (RepeatPolicy.ofText? policy).isSome) :
    (∃ r, (ofText globals (some name) policy text).outcome.1 = .ok r) ∨
      (∃ e, (ofText globals (some name) policy text).outcome.1 = .error e ∧
        (e.kind = .parsing ∨ e.kind = .compiling ∨ e.kind = .validation) ∧
        e.message = name ++ ofString ": " ++ e.cause.message) ∨
      ∃ e d, (ofText globals (some name) policy text).outcome.1 = .error e ∧
        Document.parse text = .ok d ∧ Unlabelled d e.cause := by
  have hnamed {e : Error} (hsource : e.source = some name)
      (hkind : e.cause.kind.concernsRules = true) :
      (e.kind = .parsing ∨ e.kind = .compiling ∨ e.kind = .validation) ∧
        e.message = name ++ ofString ": " ++ e.cause.message := by
    refine ⟨concernsRules_iff.mp hkind, ?_⟩
    rw [Error.message, Error.kind, if_pos hkind, hsource]
    rfl
  cases houtcome : (ofText globals (some name) policy text).outcome.1 with
  | ok r => exact Or.inl ⟨r, rfl⟩
  | error e =>
    refine Or.inr ?_
    cases hparse : Document.parse text with
    | error e' =>
      unfold ofText readDocument at houtcome
      rw [hparse] at houtcome
      cases houtcome
      exact Or.inl ⟨_, rfl, hnamed rfl rfl⟩
    | ok d =>
      have htold := failsAs_ofText globals hpolicy hparse _ _ e (Prod.ext houtcome rfl)
      rcases htold.cause with hkind | hbad
      · exact Or.inl ⟨e, rfl, hnamed htold.source hkind⟩
      · exact Or.inr ⟨e, d, rfl, rfl, hbad⟩

/-- A field without a pattern is refused in the name of the source. -/
theorem ofText_labelled_field :
    (RepeatPolicy.ofText? "warn").isSome ∧
      ∃ e, (ofText [] (some "r") "warn" "field f \x7b\x7d").outcome.1 = .error e ∧
        e.message = ofString "r" ++ ofString ": " ++ e.cause.message := by
  have hpolicy : (RepeatPolicy.ofText? "warn").isSome := by decide +kernel
  have houtcome : (ofText [] (some "r") "warn" "field f \x7b\x7d").outcome.1 =
      .error ⟨some "r", .field "f" (.noPattern "f")⟩ := by decide +kernel
  refine ⟨hpolicy, ?_⟩
  rcases ofText_labelled [] "r" "field f \x7b\x7d" hpolicy with
    ⟨r, hr⟩ | ⟨e, he, -, hmessage⟩ | ⟨e, d, he, -, hbad⟩
  · rw [houtcome] at hr
    cases hr
  · exact ⟨e, he, hmessage⟩
  · rw [houtcome] at he
    cases he
    cases hbad with
    | field _ hbad => cases hbad

/-- The number of no code point in a value, and a bound of a repetition that is too large, are told
without the name of the source and as failures of another kind. -/
theorem number_unlabelled :
    (∃ e, (ofText [] (some "r") "warn" "prefix = \"\\U00110000\"\n").outcome.1 = .error e ∧
      e.kind = .badValue ∧ e.message = ofString "chr() arg not in range(0x110000)") ∧
    ∃ e, (ofText [] (some "r") "warn" "field f \x7bpattern = `a\x7b4294967295\x7d`\x7d").outcome.1 =
        .error e ∧
      e.kind = .overflow ∧ e.message = ofString "the repetition number is too large" :=
  ⟨⟨⟨some "r", .opening .noCodePoint⟩, by decide +kernel, rfl, rfl⟩,
    ⟨some "r", .field "f" (.badPattern "a\x7b4294967295\x7d" "f" .hugeRepeat)⟩, by decide +kernel,
      rfl, rfl⟩

end RuleSet

end LineSift
