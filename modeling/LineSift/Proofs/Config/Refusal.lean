import LineSift.Proofs.Encoding.Refusal
import LineSift.Proofs.Failing

/-!
# Why a configuration cannot be used

Whatever is wrong with the file of a configuration, or with the value of an option, is reported.  So
is what is wrong with a global field, unless a number in it is out of range
(`failsAs_globalFields`).
-/

namespace LineSift.Config

open Effect (FailsOnly bind_eq_error)

variable {c : Config} {e : Error}

/-! ## Reading a file -/

/-- Reading blocks fails for bytes that cannot be decoded. -/
theorem readBlocks_failure {n : Nat} {before : Text} {waiting bytes : Bytes} {e : Encoding.Error}
    (h : (readBlocks n before waiting bytes).failure = some e) : e.kind = .decoding := by
  induction n generalizing before waiting bytes with
  | zero => cases h
  | succ n ih =>
    unfold readBlocks at h
    dsimp only at h
    split at h
    · split at h
      · next hdecode =>
        cases h
        exact Encoding.decodeStrict_error hdecode
      · cases h
    · split at h
      · next htreat =>
        cases h
        rcases Encoding.treat_error htreat with hrefuse | hkind
        · cases hrefuse
        · exact hkind
      · exact ih h

theorem readLine_error {file line : Text} {number : Nat} {d : Draft}
    (h : readLine file number line d = .error e) : e.kind.isReported = true := by
  have hsection {d : Draft} {sec : Text} (h : beginSection file number d sec = .error e) :
      e.kind.isReported = true := by
    unfold beginSection at h
    split at h
    · cases h
      rfl
    · split at h <;> cases h
  have hitem {d : Draft} (h : readItem file number line d = .error e) :
      e.kind.isReported = true := by
    unfold readItem at h
    split at h
    · exact hsection h
    split at h
    · cases h
      rfl
    split at h
    · cases h
    · next name value _ =>
      dsimp only at h
      generalize (if name = [] then { d with badLines := d.badLines ++ [(number, line)] } else d) =
        d' at h
      split at h
      · cases h
        rfl
      · cases h
  unfold readLine at h
  dsimp only at h
  split at h
  · cases h
  split at h
  · cases h
  split at h
  · cases h
  · exact hitem h

/-- Reading lines fails for one of them, by induction on them. -/
theorem readLines_error {file : Text} {number : Nat} {lines : List Text} {d : Draft}
    (h : readLines file number lines d = .error e) : e.kind.isReported = true := by
  induction lines generalizing number d with
  | nil => cases h
  | cons line lines ih =>
    rcases bind_eq_error h with hline | ⟨d', -, hrest⟩
    · exact readLine_error hline
    · exact ih hrest

/-- **A file that is no configuration** is reported. -/
theorem parse_error {file : Text} {bytes : Bytes} (h : parse file bytes = .error e) :
    e.kind.isReported = true := by
  rcases bind_eq_error h with hlines | ⟨d, -, h⟩
  · exact readLines_error hlines
  split at h
  · next e' he =>
    cases h
    rw [Error.kind, readBlocks_failure he]
    rfl
  · split at h
    · cases h
      rfl
    · cases h

/-! ## Values -/

/-- An option that is missing is reported, and so are values of the wrong kind below. -/
theorem value_error {sec name : Text} (h : c.value sec name = .error e) :
    e.kind.isReported = true := by
  unfold value at h
  split at h
  · cases h
    rfl
  split at h
  · cases h
  · cases h
    rfl

theorem intValue_error {sec name : Text} (h : c.intValue sec name = .error e) :
    e.kind.isReported = true := by
  rcases bind_eq_error h with hvalue | ⟨v, -, h⟩
  · exact value_error hvalue
  unfold integerOf at h
  split at h
  · cases h
    rfl
  split at h
  · cases h
    rfl
  · cases h

theorem truthValue_error {sec name : Text} (h : c.truthValue sec name = .error e) :
    e.kind.isReported = true := by
  rcases bind_eq_error h with hvalue | ⟨v, -, h⟩
  · exact value_error hvalue
  unfold truthOf at h
  split at h
  · cases h
  split at h
  · cases h
  · cases h
    rfl

theorem listValue_error {sec name separator : Text}
    (h : c.listValue sec name separator = .error e) : e.kind.isReported = true := by
  rcases bind_eq_error h with hvalue | ⟨v, -, h⟩
  · exact value_error hvalue
  unfold listOf at h
  split at h
  · cases h
  split at h
  · cases h
    rfl
  · cases h

/-! ## Opening -/

theorem failsOnly_fromFile (path : Text) (w₀ : World) :
    FailsOnly w₀.Noted (fun e => e.kind.isReported = true) (fromFile path) := by
  unfold fromFile
  refine .get_bind fun w _ => ?_
  refine .unless (Effect.failsOnly_throw rfl) fun _ => ?_
  refine .get_bind fun w _ => ?_
  split
  · exact Effect.failsOnly_throw rfl
  · refine (Work.failsOnly_ofExcept fun e he => ?_).bind fun _ _ => Effect.failsOnly_pure _
    exact parse_error he

/-- Whatever is wrong with the file of a configuration is reported. -/
theorem failsOnly_openAt (given environment : Option Text) (complete verbose : Bool) (w₀ : World) :
    FailsOnly w₀.Noted (fun e => e.kind.isReported = true)
      (openAt given environment complete verbose) := by
  unfold openAt
  cases given.or environment with
  | some path => exact (failsOnly_fromFile path w₀).bind fun _ _ => Effect.failsOnly_pure _
  | none =>
    refine .unless (Work.failsOnly_say fun w hw => hw.trans (.tell w _)) fun _ => ?_
    exact (Effect.failsOnly_pure _).bind fun _ _ => Effect.failsOnly_pure _

/-! ## Global fields -/

/-- A global field cannot be made, and that is not put down to it. -/
inductive Unlabelled (c : Config) : Error → Prop
  | field {sec : Text} {e : Field.Error} : sec ∈ c.sections.keys →
      fieldMark.isPrefixOf sec = true → Field.Unlabelled (c.options sec) e → Unlabelled c (.field e)

/-- A failure is reported, or a global field has a number that is out of range. -/
def Told (c : Config) (e : Error) : Prop := e.kind.isReported = true ∨ Unlabelled c e

/-- The global fields fail for a section of the configuration. -/
theorem failsAs_fieldsOf (c : Config) (check : Bool) (fields : Assoc Field) {secs : List Text}
    (h : secs ⊆ c.sections.keys) : (fieldsOf c check fields secs).FailsAs (Told c) := by
  induction secs generalizing fields with
  | nil => exact Logged.failsAs_pure _
  | cons sec secs ih =>
    have hrest (fields : Assoc Field) : (fieldsOf c check fields secs).FailsAs (Told c) :=
      ih fields fun s hs => h (List.mem_cons_of_mem _ hs)
    rw [fieldsOf]
    split
    · next hmark =>
      refine Logged.FailsAs.bind ?_ fun f _ => ?_
      · refine (Logged.failsAs_ofExcept fun e he => ?_).bind fun f _ => ?_
        · rcases Field.ofAttributes_error he with hkind | hbad
          · exact Or.inl (Kind.reported_of_concernsRules hkind)
          · exact Or.inr (.field (h List.mem_cons_self) hmark hbad)
        · dsimp only
          split
          · exact (Logged.failsAs_say _ _).bind fun _ _ => Logged.failsAs_pure _
          · exact Logged.failsAs_pure _
      · split
        · split
          · exact .bind (Logged.failsAs_throw (Or.inl rfl)) fun _ _ => hrest _
          · exact hrest _
        · exact hrest _
    · exact hrest _

/-- **Global fields** are made, or the failure is reported unless a number in one of them is out of
range. -/
theorem failsAs_globalFields (c : Config) (check : Bool) :
    (globalFields c check).FailsAs (Told c) :=
  failsAs_fieldsOf c check [] (List.Subset.refl _)

end LineSift.Config
