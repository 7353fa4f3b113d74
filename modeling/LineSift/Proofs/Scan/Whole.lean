import LineSift.Proofs.Encoding.Whole
import LineSift.Proofs.RuleSet.Verbatim
import LineSift.Proofs.Scan.Batches

/-!
# A file, and its text as a whole

A log file is decoded line by line, which comes to the same as decoding it at once and taking the
lines of the text (`logFile_decoded`).  Into which batches the unknown lines are cut depends on
nothing but these lines (`plan_batches`), and an unfinished line that has become empty is not among
them.  A line that is not UTF-8 has a replacement character, so rules that have none and no fields
do not know it.
-/

namespace LineSift

/-- Rules that have no fields and no replacement character in their texts. -/
structure Rules.IsReplacementFree (r : Rules) : Prop where
  fields : r.fields = []
  globals : r.globals = []
  opening : .replacement ∉ r.opening
  templates : ∀ t ∈ r.templates, .replacement ∉ t

/-- Rules without fields do not know a line with a replacement character that they do not have. -/
theorem Rules.IsReplacementFree.knows {r : Rules} (h : r.IsReplacementFree) {rs : RuleSet}
    (hrs : RuleSet.ofRules r = .ok rs) {line : Text} (hline : .replacement ∈ line) :
    rs.knows line = false := by
  obtain ⟨rs', hrs', hknows⟩ := RuleSet.knows_without_fields h.fields h.globals
  obtain rfl : rs' = rs := Except.ok.inj (hrs'.symm.trans hrs)
  rw [Bool.eq_false_iff]
  intro hknown
  obtain ⟨t, ht, rfl⟩ := (hknows line).mp hknown
  exact (List.mem_append.mp hline).elim h.opening (h.templates t ht)

namespace Scan

variable {σ : Type}

/-! ## Batches of unknown lines -/

/-- Cuts lines into batches of a size, after one has been begun. -/
def cut (size : Nat) : List Text → List Text → List (List Text)
  | batch, [] => if batch = [] then [] else [batch]
  | batch, t :: ts =>
    if size ≤ (batch ++ [t]).length then (batch ++ [t]) :: cut size [] ts
    else cut size (batch ++ [t]) ts

/-- The batches of a plan are cut from the unknown lines, wherever these stand. -/
theorem plan_batches (rules : List RuleSet) (size : Nat) {lines : List Line} {texts : List Text}
    (h : lines.map Line.text = texts.map .ok) (batch : List Text) (taken : Nat) :
    (plan rules size lines batch taken).1.map Batch.lines =
      cut size batch (unknownTexts rules texts) := by
  induction lines generalizing texts batch taken with
  | nil =>
    obtain rfl : texts = [] := List.map_eq_nil_iff.mp h.symm
    by_cases hb : batch = [] <;> simp [plan, cut, unknownTexts, hb]
  | cons l ls ih =>
    cases texts with
    | nil => cases h
    | cons text texts =>
      obtain ⟨htext, htexts⟩ := List.cons.inj h
      rw [plan, htext]
      dsimp only
      by_cases hu : isUnknown rules text.strip
      · rw [unknownTexts_unknown hu, cut, if_pos hu]
        split
        · rw [planCons, List.map_cons, ih htexts]
        · exact ih htexts _ _
      · rw [unknownTexts_known hu, if_neg hu]
        exact ih htexts _ _

/-- An empty text is not handed out. -/
theorem unknownTexts_filter (rules : List RuleSet) (texts : List Text) :
    unknownTexts rules (texts.filter (· ≠ [])) = unknownTexts rules texts := by
  induction texts with
  | nil => rfl
  | cons t ts ih =>
    by_cases ht : t = []
    · subst ht
      rw [List.filter_cons_of_neg (by simp), ih, unknownTexts_known (t := []) Bool.false_ne_true]
    · rw [List.filter_cons_of_pos (by simpa using ht)]
      by_cases hu : isUnknown rules t.strip
      · rw [unknownTexts_unknown hu, unknownTexts_unknown hu, ih]
      · rw [unknownTexts_known hu, unknownTexts_known hu, ih]

/-- A plan breaks off at the first line that is not text. -/
theorem plan_error (rules : List RuleSet) (size : Nat) {lines : List Line} {e : Encoding.Error}
    (h : lines.mapM Line.text = .error e) (batch : List Text) (taken : Nat) :
    (plan rules size lines batch taken).2.error = some e := by
  induction lines generalizing batch taken with
  | nil => cases h
  | cons l ls ih =>
    rw [List.mapM_cons] at h
    rw [plan]
    cases htext : l.text with
    | error e' =>
      rw [htext] at h
      cases h
      rfl
    | ok text =>
      rw [htext] at h
      have hrest : ls.mapM Line.text = .error e := by
        cases hls : ls.mapM Line.text with
        | error e' =>
          rw [hls] at h
          exact h
        | ok texts =>
          rw [hls] at h
          cases h
      dsimp only
      split
      · split
        · exact ih hrest _ _
        · exact ih hrest _ _
      · exact ih hrest _ _

/-! ## Lines of bytes -/

theorem byteLines_text (encoding treatment : Text) (start : Nat) (ls : List Bytes) :
    (byteLines encoding treatment start ls).map Line.text =
      ls.map (Encoding.decode encoding treatment) := by
  induction ls generalizing start with
  | nil => rfl
  | cons l ls ih => rw [byteLines, List.map_cons, List.map_cons, ih]

theorem byteLines_mapM (encoding treatment : Text) (start : Nat) (ls : List Bytes) :
    (byteLines encoding treatment start ls).mapM Line.text =
      ls.mapM (Encoding.decode encoding treatment) := by
  have h := congrArg (List.mapM id) (byteLines_text encoding treatment start ls)
  rwa [List.mapM_map, List.mapM_map] at h

/-- Behind the last line is the end of the bytes. -/
theorem byteLines_last (encoding treatment : Text) (start : Nat) (ls : List Bytes) :
    ((byteLines encoding treatment start ls).getLast?.map Line.stop).getD start =
      start + ls.flatten.length := by
  induction ls generalizing start with
  | nil => rfl
  | cons l ls ih =>
    rw [byteLines, List.getLast?_cons, Option.map_some, Option.getD_some, List.flatten_cons,
      List.length_append, ← Nat.add_assoc, ← ih (start + l.length)]
    cases (byteLines encoding treatment (start + l.length) ls).getLast? <;> rfl

/-! ## Receivers that do not fail -/

/-- A receiver that accepts every batch. -/
def NeverFails (receive : Receiver σ) : Prop := ∀ batch s, (receive batch s).1 = .ok ()

theorem NeverFails.accepts {receive : Receiver σ} (h : NeverFails receive)
    (batches : List (List Text)) (s : σ) : ∃ s', Accepts receive batches s s' := by
  induction batches generalizing s with
  | nil => exact ⟨s, .nil s⟩
  | cons batch batches ih =>
    obtain ⟨s', hs'⟩ := ih (receive batch s).2
    exact ⟨s', .cons (Prod.ext (h batch s) rfl) hs'⟩

/-- The plan for a file that is read from its beginning. -/
def planOf (rules : List RuleSet) (settings : Settings) (bytes : Bytes) : List Batch × Ending :=
  plan rules settings.batchSize.toNat
    (byteLines settings.encoding settings.treatment 0 (Encoding.byteLines bytes)) [] 0

/-- A receiver that does not fail is handed all batches of the plan. -/
theorem logFile_planned (rules : List RuleSet) {settings : Settings}
    (hsize : 1 ≤ settings.batchSize)
    {receive : Receiver σ} {s s' : σ} {path : Text} {w : World} {f : File}
    (hf : w.fileAt? path = some f)
    (h : Accepts receive ((planOf rules settings f.bytes).1.map Batch.lines) s s') :
    logFile rules settings receive path none none s w =
      (⟨s', match (planOf rules settings f.bytes).2.error with
        | none => .ok ⟨f.inode, (planOf rules settings f.bytes).2.taken⟩
        | some e => .error (.stopped (.undecodable e) none)⟩, w) := by
  have hcontent : content rules settings receive f 0 s =
      { state := s', taken := (planOf rules settings f.bytes).2.taken,
        received := reached 0 (planOf rules settings f.bytes).1,
        failure := (planOf rules settings f.bytes).2.error.map .undecodable } := by
    rw [content, run, if_neg (Int.not_lt.mpr hsize), loop_eq_feed, List.drop_zero]
    exact feed_accepts _ h 0
  rw [logFile_eq rules settings receive none hf hf]
  change (FileOutcome.mk (content rules settings receive f 0 s).state
    (conclude f.inode (content rules settings receive f 0 s)), w) = _
  rw [hcontent, conclude]
  cases (planOf rules settings f.bytes).2.error <;> rfl

/-! ## A file whose lines are text -/

section

variable {settings : Settings} {f : File} {text : Text}

/-- The plan for a file that can be decoded is that for the lines of its text. -/
theorem planOf_decoded (rules : List RuleSet)
    (hplain : Encoding.Plain settings.encoding settings.treatment)
    (h : Encoding.decode settings.encoding settings.treatment f.bytes = .ok text) :
    (planOf rules settings f.bytes).2 = ⟨none, f.size⟩ ∧
      (planOf rules settings f.bytes).1.map Batch.lines =
        cut settings.batchSize.toNat [] (unknownTexts rules (Text.linesWithEnds text)) := by
  obtain ⟨lines, hlines, rfl⟩ := hplain.decode_eq_ok_lines.mp h
  have htexts : (byteLines settings.encoding settings.treatment 0
      (Encoding.byteLines f.bytes)).map Line.text = lines.map .ok := by
    rw [byteLines_text, ← List.forall₂_eq_eq_eq, List.forall₂_map_left_iff,
      List.forall₂_map_right_iff]
    exact mapM_eq_ok_iff.mp hlines
  constructor
  · rw [planOf, (plan_of_texts rules _ htexts [] 0).1, byteLines_last, Encoding.flatten_byteLines,
      Nat.zero_add]
    rfl
  · rw [planOf, plan_batches rules _ htexts, hplain.linesWithEnds_of_lines hlines,
      unknownTexts_filter]

/-- The plan for a file that cannot be decoded breaks off. -/
theorem planOf_undecodable (rules : List RuleSet)
    (hplain : Encoding.Plain settings.encoding settings.treatment)
    {e : Encoding.Error}
    (h : Encoding.decode settings.encoding settings.treatment f.bytes = .error e) :
    ∃ e', (planOf rules settings f.bytes).2.error = some e' ∧ e'.kind = .decoding := by
  cases hlines : (Encoding.byteLines f.bytes).mapM
      (Encoding.decode settings.encoding settings.treatment) with
  | ok lines =>
    rw [hplain.decode_eq_ok_lines.mpr ⟨lines, hlines, rfl⟩] at h
    cases h
  | error e' =>
    obtain ⟨l, -, hl⟩ := exists_of_mapM_error hlines
    rw [← byteLines_mapM _ _ 0] at hlines
    exact ⟨e', plan_error rules _ hlines [] 0, (hplain.refuse_of_error hl).2⟩

/-- A line that is not UTF-8 is unknown to rules without replacement characters. -/
theorem unknown_of_not_utf8 {rules : List RuleSet}
    (hencoding : Encoding.ofName? settings.encoding = some .utf8)
    (htreatment : Treatment.ofName settings.treatment = .ok .replace)
    (hrules : ∀ rs ∈ rules, ∃ r : Rules, r.IsReplacementFree ∧ RuleSet.ofRules r = .ok rs)
    {l : Bytes} (hl : l ∈ Encoding.byteLines f.bytes) {e : Encoding.Error}
    (he : Encoding.decodeStrict l = .error e)
    (h : Encoding.decode settings.encoding settings.treatment f.bytes = .ok text) :
    (Encoding.lossy l).strip ∈ unknownTexts rules (Text.linesWithEnds text) := by
  have hplain : Encoding.Plain settings.encoding settings.treatment :=
    ⟨⟨_, hencoding⟩, _, htreatment, Or.inr (Or.inl rfl)⟩
  have hmem : CodePoint.replacement ∈ (Encoding.lossy l).strip :=
    Text.mem_strip (Encoding.replacement_mem_of_error he) (by decide)
  obtain ⟨lines, hlines, rfl⟩ := hplain.decode_eq_ok_lines.mp h
  have hline : Encoding.lossy l ∈ lines := by
    obtain ⟨line, hline, hdecode⟩ := exists_of_mem_of_forall₂ (mapM_eq_ok_iff.mp hlines).flip hl
    rw [Encoding.decode_replace hencoding htreatment] at hdecode
    exact Except.ok.inj hdecode ▸ hline
  rw [hplain.linesWithEnds_of_lines hlines, unknownTexts_filter, unknownTexts, List.mem_filter]
  refine ⟨List.mem_map_of_mem hline, ?_⟩
  rw [isUnknown, Bool.and_eq_true, decide_eq_true_eq, Bool.not_eq_true', RuleSet.anyKnows,
    List.any_eq_false]
  refine ⟨List.ne_nil_of_mem hmem, fun rs hrs => ?_⟩
  obtain ⟨r, hr, hof⟩ := hrules rs hrs
  rw [hr.knows hof hmem]
  exact Bool.false_ne_true

end

/-- **Decoding line by line loses nothing.**  A file is read from its beginning, in one of the three
encodings, and what stands for no code point is refused, replaced or left out.  With a receiver that
does not fail, reading breaks off for want of text exactly if the file as a whole cannot be decoded,
which happens only where it is refused.  Otherwise the batches are the same as those of the lines of
the whole text.  A line that is not UTF-8 has a replacement character in place of what is wrong, so
it is always handed out where no rules have a field or such a character. -/
theorem logFile_decoded (rules : List RuleSet) {settings : Settings}
    (hsize : 1 ≤ settings.batchSize)
    (hplain : Encoding.Plain settings.encoding settings.treatment) {path : Text}
    {w : World} {f : File} (hf : w.fileAt? path = some f) :
    (∀ (σ : Type) (receive : Receiver σ) (s : σ), NeverFails receive →
      ((∃ e, (logFile rules settings receive path none none s w).1.result =
          .error (.stopped (.undecodable e) none) ∧ e.kind = .decoding) ↔
        ∃ e, Encoding.decode settings.encoding settings.treatment f.bytes = .error e)) ∧
    (∀ e, Encoding.decode settings.encoding settings.treatment f.bytes = .error e →
      Treatment.ofName settings.treatment = .ok .refuse ∧ e.kind = .decoding) ∧
    (∀ text, Encoding.decode settings.encoding settings.treatment f.bytes = .ok text →
      ∃ batches : List (List Text),
        batches.flatten = unknownTexts rules (Text.linesWithEnds text) ∧
        ∀ (σ : Type) (receive : Receiver σ) (s : σ), NeverFails receive → ∃ s' received,
          Accepts receive batches s s' ∧
          logFile rules settings receive path none none s w = (⟨s', .ok ⟨f.inode, f.size⟩⟩, w) ∧
          run rules settings.batchSize receive 0
              (numbered ((Text.linesWithEnds text).map .ok)) s =
            { state := s', taken := (Text.linesWithEnds text).length, received, failure := none }) ∧
    (Encoding.ofName? settings.encoding = some .utf8 →
      Treatment.ofName settings.treatment = .ok .replace →
      ∀ l ∈ Encoding.byteLines f.bytes, ∀ e, Encoding.decodeStrict l = .error e → ∃ line,
        Encoding.decode settings.encoding settings.treatment l = .ok line ∧ .replacement ∈ line ∧
        (∀ (r : Rules) (rs : RuleSet), r.IsReplacementFree → RuleSet.ofRules r = .ok rs →
          rs.knows line.strip = false) ∧
        ((∀ rs ∈ rules, ∃ r : Rules, r.IsReplacementFree ∧ RuleSet.ofRules r = .ok rs) →
          ∀ text, Encoding.decode settings.encoding settings.treatment f.bytes = .ok text →
            line.strip ∈ unknownTexts rules (Text.linesWithEnds text))) := by
  refine ⟨fun σ receive s hreceive => ⟨?_, ?_⟩, fun e he => hplain.refuse_of_error he,
    fun text htext => ?_, fun hencoding htreatment l hl e he => ?_⟩
  · rintro ⟨e, he, -⟩
    cases hdecode : Encoding.decode settings.encoding settings.treatment f.bytes with
    | error e' => exact ⟨e', rfl⟩
    | ok text =>
      obtain ⟨s', hs'⟩ := hreceive.accepts ((planOf rules settings f.bytes).1.map Batch.lines) s
      rw [logFile_planned rules hsize hf hs', (planOf_decoded rules hplain hdecode).1] at he
      cases he
  · rintro ⟨e, he⟩
    obtain ⟨e', he', hkind⟩ := planOf_undecodable rules hplain he
    obtain ⟨s', hs'⟩ := hreceive.accepts ((planOf rules settings f.bytes).1.map Batch.lines) s
    rw [logFile_planned rules hsize hf hs', he']
    exact ⟨e', rfl, hkind⟩
  · obtain ⟨hending, hbatches⟩ := planOf_decoded rules hplain htext
    have hlines : (numbered ((Text.linesWithEnds text).map .ok)).map Line.text =
        (Text.linesWithEnds text).map .ok := numbered_texts _
    refine ⟨(planOf rules settings f.bytes).1.map Batch.lines, ?_, fun σ receive s hreceive => ?_⟩
    · rw [hbatches, ← plan_batches rules _ hlines [] 0, (plan_of_texts rules _ hlines [] 0).2]
      rfl
    · obtain ⟨s', hs'⟩ := hreceive.accepts ((planOf rules settings f.bytes).1.map Batch.lines) s
      have hsame : (textPlan rules settings.batchSize.toNat
          ((Text.linesWithEnds text).map .ok) [] 0).map Batch.lines =
            (planOf rules settings f.bytes).1.map Batch.lines :=
        (plan_batches rules _ hlines [] 0).trans hbatches.symm
      obtain ⟨received, hrun⟩ := run_accepts hsize (hsame ▸ hs')
      refine ⟨s', received, hs', ?_, hrun⟩
      rw [logFile_planned rules hsize hf hs', hending]
  · have hmem := Encoding.replacement_mem_of_error he
    refine ⟨Encoding.lossy l, Encoding.decode_replace hencoding htreatment l, hmem,
      fun r rs hr hrs => hr.knows hrs (Text.mem_strip hmem (by decide)),
      fun hrules text htext => ?_⟩
    exact unknown_of_not_utf8 hencoding htreatment hrules hl he htext

/-- A sequence breaks off before a line feed, and another at the end of the file. -/
theorem logFile_decoded_broken_off :
    ∃ kept received,
      logFile [] { batchSize := 2 } keeping "log" none none []
          (.ofFile "log" ⟨7, [0x61, 0xE2, 0x82, 0x0A, 0x62, 0x0A, 0xC3]⟩) =
        (⟨kept, .ok ⟨7, 7⟩⟩, .ofFile "log" ⟨7, [0x61, 0xE2, 0x82, 0x0A, 0x62, 0x0A, 0xC3]⟩) ∧
      run [] 2 keeping 0 (numbered
          ([Text.ofString "a\uFFFD\n", Text.ofString "b\n", Text.ofString "\uFFFD"].map .ok)) [] =
        { state := kept, taken := 3, received, failure := none } ∧
      kept.flatten = [Text.ofString "a\uFFFD", Text.ofString "b", Text.ofString "\uFFFD"] := by
  have hplain : Encoding.Plain (Text.ofString "utf-8") (Text.ofString "replace") :=
    ⟨⟨.utf8, by decide +kernel⟩, .replace, rfl, Or.inr (Or.inl rfl)⟩
  have htext : Encoding.decode (Text.ofString "utf-8") (Text.ofString "replace")
      [0x61, 0xE2, 0x82, 0x0A, 0x62, 0x0A, 0xC3] = .ok (Text.ofString "a\uFFFD\nb\n\uFFFD") :=
    (Encoding.decode_default _).trans (by decide +kernel)
  have hf : (World.ofFile "log" ⟨7, [0x61, 0xE2, 0x82, 0x0A, 0x62, 0x0A, 0xC3]⟩).fileAt? "log" =
      some ⟨7, [0x61, 0xE2, 0x82, 0x0A, 0x62, 0x0A, 0xC3]⟩ := by decide
  obtain ⟨-, -, hbatches, -⟩ :=
    @logFile_decoded [] { batchSize := 2 } (by decide) hplain _ _ _ hf
  obtain ⟨batches, hflatten, hreceivers⟩ := hbatches _ htext
  obtain ⟨kept, received, haccepts, hfile, hrun⟩ := hreceivers _ keeping [] fun _ _ => rfl
  refine ⟨kept, received, hfile, hrun, ?_⟩
  rw [accepts_collecting haccepts, List.nil_append, hflatten]
  decide +kernel

end Scan

end LineSift
