import LineSift.Proofs.Encoding.Refusal
import LineSift.Proofs.RuleSet.Refusal
import LineSift.Proofs.Scan.LogFile

/-!
# Why a log file is not read to its end

Whatever ends the reading of a log file before its time is reported, unless the encoding or the
treatment of undecodable bytes is not known by its name (`logFile_error`).
-/

namespace LineSift.Scan

variable {σ : Type} {rules : List RuleSet} {receive : Receiver σ}

theorem handOut_failure {batch : List Text} {taken received : Nat} {s : σ} {failure : Failure}
    (h : (handOut receive batch taken received s).failure = some failure) :
    ∃ f, failure = .receiver f := by
  unfold handOut at h
  split at h
  · cases h
  · next f _ _ =>
    cases h
    exact ⟨f, rfl⟩

/-- The work ends before its time for the receiver, or for a line that is not text. -/
theorem loop_failure {size : Nat} {lines : List Line} {batch : List Text} {taken received : Nat}
    {s : σ} {failure : Failure}
    (h : (loop rules size receive lines batch taken received s).failure = some failure) :
    (∃ f, failure = .receiver f) ∨ ∃ l ∈ lines, ∃ e, l.text = .error e ∧
      failure = .undecodable e := by
  have honward {l : Line} {ls : List Line}
      (ih : (∃ f, failure = .receiver f) ∨
        ∃ l ∈ ls, ∃ e, l.text = .error e ∧ failure = .undecodable e) :
      (∃ f, failure = .receiver f) ∨
        ∃ l' ∈ l :: ls, ∃ e, l'.text = .error e ∧ failure = .undecodable e :=
    ih.imp_right fun ⟨l', hl', he⟩ => ⟨l', List.mem_cons_of_mem _ hl', he⟩
  fun_induction loop rules size receive lines batch taken received s with
  | case1 => cases h
  | case2 => exact Or.inl (handOut_failure h)
  | case3 l _ _ _ _ _ e htext =>
    cases h
    exact Or.inr ⟨l, List.mem_cons_self, e, htext, rfl⟩
  | case4 => exact Or.inl (handOut_failure h)
  | case5 _ _ _ _ _ _ _ _ _ _ _ _ _ _ ih => exact honward (ih h)
  | case6 _ _ _ _ _ _ _ _ _ _ _ _ ih => exact honward (ih h)
  | case7 _ _ _ _ _ _ _ _ _ _ ih => exact honward (ih h)

theorem mem_byteLines {encoding treatment : Text} {start : Nat} {lines : List Bytes} {l : Line}
    (h : l ∈ byteLines encoding treatment start lines) :
    ∃ bytes ∈ lines, l.text = Encoding.decode encoding treatment bytes := by
  induction lines generalizing start with
  | nil => cases h
  | cons bytes lines ih =>
    rcases List.mem_cons.mp h with rfl | h
    · exact ⟨bytes, List.mem_cons_self, rfl⟩
    · obtain ⟨bytes', hmem, htext⟩ := ih h
      exact ⟨bytes', List.mem_cons_of_mem _ hmem, htext⟩

/-- How a log file is read is not known, by a name. -/
inductive Misnamed (settings : Settings) : FileFailure → Prop
  | mk {e : Encoding.Error} : Encoding.Misnamed settings.encoding settings.treatment e →
      Misnamed settings (.stopped (.undecodable e) none)

theorem content_failure {settings : Settings} {f : File} {start : Nat} {s : σ} {failure : Failure}
    (h : (content rules settings receive f start s).failure = some failure) :
    failure.kind.isReported = true ∨
      ∃ e, failure = .undecodable e ∧ Encoding.Misnamed settings.encoding settings.treatment e := by
  unfold content run at h
  split at h
  · cases h
    exact Or.inl rfl
  rcases loop_failure h with ⟨_, rfl⟩ | ⟨l, hl, e, htext, rfl⟩
  · exact Or.inl rfl
  obtain ⟨bytes, -, hdecode⟩ := mem_byteLines hl
  rcases Encoding.decode_error (hdecode.symm.trans htext) with hkind | hmisnamed
  · refine Or.inl ?_
    rw [Failure.kind, hkind]
    rfl
  · exact Or.inr ⟨e, rfl, hmisnamed⟩

/-- **A log file that is not read to its end**: the failure is reported, unless a name is
not known. -/
theorem logFile_error {settings : Settings} {path : Text} {last : Option Marker} {s : σ} {w : World}
    {e : FileFailure}
    (h : (logFile rules settings receive path last none s w).1.result = .error e) :
    e.kind.isReported = true ∨ Misnamed settings e := by
  rw [logFile_apply] at h
  split at h
  · cases h
    exact Or.inl (Store.Error.reported _)
  dsimp only [conclude] at h
  split at h
  · cases h
  · cases h
    exact Or.inl rfl
  · next failure hfailure =>
    cases h
    rcases content_failure hfailure with hreported | ⟨e, rfl, hmisnamed⟩
    · exact Or.inl hreported
    · exact Or.inr (.mk hmisnamed)

end LineSift.Scan
