import LineSift.Proofs.Assoc
import LineSift.Proofs.Effect
import LineSift.Proofs.RuleSet.Patterns
import LineSift.Proofs.Text.Space
import LineSift.RuleSet.Load

/-!
# What is known of rules that were loaded

While rules are loaded each field has to match its samples, and the sample lines are kept without
the white space around them (`sound_of_ofText`).  So when loaded rules are checked, nothing but a
sample line can be at fault (`fault?_of_sound`).
-/

namespace LineSift

theorem Regex.spanFailure?_eq_none {r : Regex} {t : Text} :
    r.spanFailure? t = none ↔ r.matchesSpan t = true := by
  unfold spanFailure? matchesSpan
  cases r.search t with
  | none => simp
  | some span =>
    obtain ⟨start, stop⟩ := span
    dsimp only
    split
    · next h => simp [h]
    · next h =>
      rw [Classical.not_not] at h
      split
      · next h' => simp [h']
      · next h' =>
        rw [Classical.not_not] at h'
        simp [h, h']

theorem Field.badSample?_eq_none {f : Field} :
    f.badSample? = none ↔ ∀ sample ∈ f.samples, f.regex.matchesSpan sample = true := by
  rw [badSample?, List.findSome?_eq_none_iff]
  simp only [Option.map_eq_none_iff, Regex.spanFailure?_eq_none]

namespace RuleSet

theorem of_ofExcept_ok {ε δ α : Type} {f : δ → ε} {x : Except δ α} {a : α} {log log' : Log}
    (h : Logged.ofExcept f x log = (.ok a, log')) : x = .ok a := by
  cases x with
  | error e => cases h
  | ok b =>
    cases h
    rfl

/-- A document without repeated fields is loaded as it stands, whatever the policy. -/
theorem ofText_of_document {text policy : Text} {d : Document}
    (hparse : Document.parse text = .ok d)
    (hrepeated : d.repeated = []) (hpolicy : (RepeatPolicy.ofText? policy).isSome)
    (globals : Assoc Field) (source : Option Text) :
    ∃ log, (ofText globals source policy text).outcome = ofDocument globals source d log := by
  obtain ⟨p, hp⟩ := Option.isSome_iff_exists.mp hpolicy
  obtain ⟨log, hread⟩ : ∃ log, readDocument source text [] = (.ok d, log) := by
    unfold readDocument
    rw [hparse]
    exact ⟨_, rfl⟩
  refine ⟨log, ?_⟩
  change ofText globals source policy text [] = _
  rw [ofText, Effect.bind_ok hread, hp]
  simp only [hrepeated]
  rfl

/-- Each field matches its samples over their full span, and no sample line has white space around
it. -/
structure Sound (r : RuleSet) : Prop where
  fields : ∀ x ∈ r.fields, x.2.badSample? = none
  samples : ∀ line ∈ r.samples, line.strip = line

theorem badSample?_of_readFields {source : Option Text} {fields fields' : Assoc Field}
    {written : Assoc (Assoc Text)} {log log' : Log}
    (h : readFields source fields written log = (.ok fields', log'))
    (hfields : ∀ x ∈ fields, x.2.badSample? = none) : ∀ x ∈ fields', x.2.badSample? = none := by
  induction written generalizing fields log with
  | nil =>
    cases h
    exact hfields
  | cons entry rest ih =>
    obtain ⟨name, attributes⟩ := entry
    obtain ⟨f, log₁, -, h⟩ := Effect.of_bind_ok h
    cases hbad : f.badSample? with
    | some bad =>
      rw [hbad] at h
      cases h
    | none =>
      rw [hbad] at h
      refine ih h fun x hx => ?_
      rcases Assoc.mem_put hx with hx | hx
      · exact hfields x hx
      · rw [hx]
        exact hbad

theorem strip_of_mem_entries {lines : List Text} {x : Text} (h : x ∈ Document.entries lines) :
    x.strip = x := by
  obtain ⟨line, -, rfl⟩ := List.mem_map.mp (List.mem_filter.mp h).1
  exact Text.strip_strip line

theorem samples_of_parse {text : Text} {d : Document} (h : Document.parse text = .ok d) :
    ∀ line ∈ d.samples, line.strip = line := by
  unfold Document.parse at h
  dsimp only at h
  cases hparse : Header.parse (Text.join [.char '\n'] (Document.cutAtSeparator text.lines).1) with
  | error e =>
    rw [hparse] at h
    cases h
  | ok items =>
    rw [hparse] at h
    cases h
    exact fun line hline => strip_of_mem_entries hline

/-- **Rules that were loaded** are sound. -/
theorem sound_of_ofText {globals : Assoc Field} {source : Option Text} {policy text : Text}
    {r : RuleSet} (h : (ofText globals source policy text).outcome.1 = .ok r) : r.Sound := by
  have hrun : ofText globals source policy text [] =
      (.ok r, (ofText globals source policy text).outcome.2) := Prod.ext h rfl
  obtain ⟨d, log, hread, hrest⟩ := Effect.of_bind_ok hrun
  obtain ⟨d', log', hparse, hsize⟩ := Effect.of_bind_ok hread
  obtain ⟨_, _, _, hsize⟩ := Effect.of_bind_ok hsize
  obtain rfl : d' = d := Except.ok.inj (congrArg Prod.fst hsize)
  cases hpolicy : RepeatPolicy.ofText? policy with
  | none =>
    rw [hpolicy] at hrest
    cases hrest
  | some p =>
    rw [hpolicy] at hrest
    obtain ⟨_, log₁, -, hdocument⟩ := Effect.of_bind_ok hrest
    obtain ⟨opening, log₂, -, hdocument⟩ := Effect.of_bind_ok hdocument
    obtain ⟨fields, log₃, hfields, hrules⟩ := Effect.of_bind_ok hdocument
    have hkept := (regexes_of_ofRules (of_ofExcept_ok hrules)).1
    have hmatched := badSample?_of_readFields hfields (List.forall_mem_nil _)
    have hstripped := samples_of_parse (of_ofExcept_ok hparse)
    refine ⟨?_, ?_⟩
    · rw [hkept]
      exact hmatched
    · rw [hkept]
      exact hstripped

/-- When sound rules are checked, the first sample line that is not known is at fault, and nothing
else. -/
theorem fault?_of_sound {r : RuleSet} (h : r.Sound) :
    r.fault? = (r.samples.find? fun line => !r.knows line).map fun line =>
      ⟨r.source, .sampleLine line⟩ := by
  rw [fault?, List.findSome?_eq_none_iff.mpr, Option.none_or]
  intro x hx
  exact Option.map_eq_none_iff.mpr (h.fields x hx)

theorem sampleLine_of_fault? {r : RuleSet} (h : r.Sound) {e : Error} (he : r.fault? = some e) :
    ∃ line ∈ r.samples, r.knows line = false ∧ e = ⟨r.source, .sampleLine line⟩ := by
  rw [fault?_of_sound h, Option.map_eq_some_iff] at he
  obtain ⟨line, hfind, rfl⟩ := he
  refine ⟨line, List.mem_of_find?_eq_some hfind, ?_, rfl⟩
  simpa using List.find?_some hfind

/-- Sound rules in which nothing is at fault know their samples. -/
theorem knows_of_fault?_eq_none {r : RuleSet} (h : r.Sound) (hnone : r.fault? = none) :
    ∀ line ∈ r.samples, r.knows line = true := by
  rw [fault?_of_sound h, Option.map_eq_none_iff, List.find?_eq_none] at hnone
  simpa using hnone

end RuleSet

end LineSift
