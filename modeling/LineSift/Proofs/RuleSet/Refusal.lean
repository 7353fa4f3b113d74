import LineSift.Proofs.Encoding.Refusal
import LineSift.Proofs.Failing

/-!
# Why the rules of a file cannot be used

That a file of rules cannot be read, or that its rules are at fault, is reported.  What is not
reported can be seen in the file as it is when its turn comes: a number in it is out of range
(`failsOnly_loadFile`, `failsOnly_loadDirectory`).
-/

namespace LineSift

/-- All errors of a store are reported. -/
theorem Store.Error.reported (e : Store.Error) : e.kind.isReported = true := by
  obtain ⟨refusal, paths⟩ := e
  cases refusal <;> rfl

/-! ## Kinds that are not reported -/

/-- Of the errors of a value only a number out of range is not reported. -/
theorem Value.Error.overflow_of_unreported {e : Value.Error} (h : e.kind.isReported = false) :
    e.kind = .overflow := by
  cases e with
  | hugeCodePoint => rfl
  | _ => cases h

theorem Regex.Error.overflow_of_unreported {e : Regex.Error} (hgrammar : e.kind ≠ .pattern)
    (h : e.kind.isReported = false) : e.kind = .overflow := by
  cases e with
  | malformed problem pos => exact absurd rfl hgrammar
  | hugeRepeat | hugeCodePoint => rfl
  | hugeNumeral digits => cases h
  | flagClash => cases h

theorem Field.Error.overflow_of_unreported {e : Field.Error} (h : e.kind.isReported = false) :
    e.kind = .overflow := by
  cases e with
  | badValue e => exact Value.Error.overflow_of_unreported h
  | unknownKey key name => cases h
  | noPattern name => cases h
  | badPattern pattern name e =>
    rw [Field.Error.kind] at h ⊢
    by_cases hgrammar : e.kind = .pattern
    · rw [if_pos hgrammar] at h
      cases h
    · rw [if_neg hgrammar] at h ⊢
      exact Regex.Error.overflow_of_unreported hgrammar h

/-- Of the reasons against rules only a number out of range is not reported. -/
theorem RuleSet.Cause.overflow_of_unreported {c : RuleSet.Cause} (h : c.kind.isReported = false) :
    c.kind = .overflow := by
  cases c with
  | opening e => exact Value.Error.overflow_of_unreported h
  | field name e => exact Field.Error.overflow_of_unreported h
  | badRegex pattern e =>
    rw [RuleSet.Cause.kind] at h ⊢
    by_cases hgrammar : e.kind = .pattern
    · rw [if_pos hgrammar] at h
      cases h
    · rw [if_neg hgrammar] at h ⊢
      exact Regex.Error.overflow_of_unreported hgrammar h
  | header | unknownOption | fieldSample | sampleLine | repeatedField | unknownPolicy => cases h

namespace RuleSet

open Effect (FailsOnly)

variable {globals : Assoc Field} {policy path : Text} {w : World}

/-! ## Texts -/

/-- What a check finds at fault is a matter of validation. -/
theorem kind_of_fault? {r : RuleSet} {e : Error} (h : r.fault? = some e) :
    e.kind = .validation := by
  unfold fault? at h
  rcases Option.or_eq_some_iff.mp h with hfield | ⟨-, hline⟩
  · obtain ⟨x, -, hx⟩ := List.exists_of_findSome?_eq_some hfield
    obtain ⟨bad, -, rfl⟩ := Option.map_eq_some_iff.mp hx
    rfl
  · obtain ⟨line, -, rfl⟩ := Option.map_eq_some_iff.mp hline
    rfl

theorem failsAs_ofText_any (globals : Assoc Field) (source : Option Text) (policy text : Text) :
    (ofText globals source policy text).FailsAs fun e => e.source = source ∧
      (e.kind.isReported = true ∨ ∃ d, Document.parse text = .ok d ∧ Unlabelled d e.cause) := by
  intro log log' e h
  cases hparse : Document.parse text with
  | error e' =>
    unfold ofText readDocument at h
    rw [hparse] at h
    cases h
    exact ⟨rfl, Or.inl rfl⟩
  | ok d =>
    cases hpolicy : RepeatPolicy.ofText? policy with
    | none =>
      unfold ofText readDocument at h
      rw [hparse, hpolicy] at h
      cases h
      exact ⟨rfl, Or.inl rfl⟩
    | some p =>
      have htold :=
        failsAs_ofText globals (Option.isSome_iff_exists.mpr ⟨p, hpolicy⟩) hparse _ _ e h
      refine ⟨htold.source, htold.cause.imp Kind.reported_of_concernsRules fun hbad => ?_⟩
      exact ⟨d, rfl, hbad⟩

/-! ## Files -/

/-- A text that was read is that of the bytes of its file, with its line ends unified. -/
theorem readText_ok {w w' : World} {t : Text} (h : readText path w = (.ok t, w')) :
    ∃ bytes text, w.store.bytesAt path = .ok bytes ∧ Encoding.decodeStrict bytes = .ok text ∧
      t = text.unifyLineEnds := by
  obtain ⟨bytes, w₁, hbytes, h⟩ := Effect.of_bind_ok h
  obtain ⟨text, w₂, htext, h⟩ := Effect.of_bind_ok h
  cases h
  exact ⟨bytes, text, Effect.mapError_eq_ok.mp (congrArg Prod.fst hbytes),
    Effect.mapError_eq_ok.mp (congrArg Prod.fst htext), rfl⟩

/-- A failure of rules is told in what their file says, behind nothing but messages: a number in it
is out of range. -/
structure Shows (w : World) (path : Text) (e : Error) : Prop where
  source : e.source = some path
  cause : ∃ w' bytes text d, w.Noted w' ∧ w'.store.bytesAt path = .ok bytes ∧
    Encoding.decodeStrict bytes = .ok text ∧ Document.parse text.unifyLineEnds = .ok d ∧
    Unlabelled d e.cause

/-- A failure is reported, or the file of a path that is looked at shows its cause. -/
def Refused (w : World) (looked : Text → Prop) (e : LoadError) : Prop :=
  e.kind.isReported = true ∨ ∃ path e', looked path ∧ e = .rules e' ∧ Shows w path e'

theorem Refused.mono {looked looked' : Text → Prop} (h : ∀ p, looked p → looked' p) {e : LoadError}
    (he : Refused w looked e) : Refused w looked' e :=
  he.imp_right fun ⟨path, e', hpath, hshows⟩ => ⟨path, e', h path hpath, hshows⟩

/-- Loading a file fails for the file itself. -/
theorem failsOnly_loadFile (globals : Assoc Field) (policy path : Text) (w : World) :
    FailsOnly w.Noted (Refused w (· = path)) (loadFile globals policy path) := by
  have hread : FailsOnly w.Noted (Refused w (· = path)) (readText path) := by
    refine .bind (Work.failsOnly_ofStore fun e => Or.inl (Store.Error.reported e)) fun bytes _ => ?_
    refine .bind (Work.failsOnly_ofExcept fun e he => Or.inl ?_) fun t _ => Effect.failsOnly_pure _
    rw [LoadError.kind, Encoding.decodeStrict_error he]
    rfl
  refine hread.bind fun t hex => ?_
  obtain ⟨w₁, w₂, hnoted, ht⟩ := hex
  obtain ⟨bytes, text, hbytes, htext, rfl⟩ := readText_ok ht
  refine Work.failsOnly_mapError (Work.failsOnly_ofLogged ?_ w)
  intro log log' e he
  obtain ⟨hsource, hreported | ⟨d, hparse, hbad⟩⟩ := failsAs_ofText_any _ _ _ _ _ _ e he
  · exact Or.inl hreported
  · exact Or.inr ⟨path, e, rfl, rfl, hsource, w₁, bytes, text, d, hnoted, hbytes,
      htext, hparse, hbad⟩

/-- Loading files fails for one of them, by induction on them. -/
theorem failsOnly_loadFiles (globals : Assoc Field) (check : Bool) (policy : Text)
    (paths : List Text) (w : World) :
    FailsOnly w.Noted (Refused w (· ∈ paths)) (loadFiles globals check policy paths) := by
  induction paths with
  | nil => exact Effect.failsOnly_pure _
  | cons path paths ih =>
    have hsay (message : Text) (r : RuleSet) : FailsOnly w.Noted (Refused w (· ∈ path :: paths))
        (Work.say .debug message >>= fun _ => loadFiles globals check policy paths >>= fun rs =>
          (pure (r :: rs) : Work LoadError (List RuleSet))) := by
      refine (Work.failsOnly_say fun w' hw => hw.trans (.tell w' _)).bind fun _ _ => ?_
      refine (ih.mono fun e he => ?_).bind fun rs _ => Effect.failsOnly_pure _
      exact he.mono fun p hp => List.mem_cons_of_mem _ hp
    unfold loadFiles
    refine ((failsOnly_loadFile globals policy path w).mono fun e he => ?_).bind fun r _ => ?_
    · exact he.mono fun p hp => hp ▸ List.mem_cons_self
    · split
      · split
        · next e hfault =>
          refine .bind (Effect.failsOnly_throw (Or.inl ?_)) fun _ _ => hsay _ r
          rw [LoadError.kind, kind_of_fault? hfault]
          rfl
        · exact hsay _ r
      · exact hsay _ r

/-- A path among the rules files of a directory, as it is behind nothing but messages. -/
def IsListed (w : World) (directory path : Text) : Prop :=
  ∃ w' paths, w.Noted w' ∧ filesIn w'.store directory = .ok paths ∧ path ∈ paths

/-- **Loading the rules of a directory** succeeds, or the failure is reported unless a rules file
has a number that is out of range. -/
theorem failsOnly_loadDirectory (globals : Assoc Field) (check : Bool) (policy directory : Text)
    (w : World) :
    FailsOnly w.Noted (Refused w (IsListed w directory))
      (loadDirectory globals check policy directory) := by
  unfold loadDirectory
  refine .get_bind fun w₁ _ => ?_
  refine .unless (Effect.failsOnly_throw (Or.inl rfl)) fun _ => ?_
  refine .bind (Work.failsOnly_ofStore fun e => Or.inl (Store.Error.reported e)) fun paths hex => ?_
  obtain ⟨w₂, w₃, hnoted, hlook⟩ := hex
  have hpaths : filesIn w₂.store directory = .ok paths :=
    Effect.mapError_eq_ok.mp (congrArg Prod.fst hlook)
  refine ((failsOnly_loadFiles globals check policy paths w).mono fun e he => ?_).bind
    fun sets _ => ?_
  · exact he.mono fun p hp => ⟨w₂, paths, hnoted, hpaths, hp⟩
  · refine (Work.failsOnly_say fun w' hw => hw.trans (.tell w' _)).bind fun _ _ => ?_
    exact Effect.failsOnly_pure _

end RuleSet

end LineSift
