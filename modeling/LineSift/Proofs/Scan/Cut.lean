import LineSift.Proofs.Marker.Resume
import LineSift.Proofs.Scan.LogFile

/-!
# A file that is read in two parts

A file is read to its end, grows, and is read on from there.  The cut may lie within a line: then
the first half of the line is handed out as a line of its own, and so is the second half later
(`unknownIn_cut`).  So the two parts deliver what the whole file would deliver just if that line and
its two halves come to the same (`halves_deliver_whole`), which they do where the cut is between
lines.
-/

namespace LineSift.Scan

open Encoding (EndsLine openEnd firstLine)

/-- A line without bytes is not handed out. -/
theorem unknown_blank (rules : List RuleSet) : unknown rules [[]] = [] := rfl

/-- The unknown lines of bytes, told apart at their first line. -/
theorem unknownIn_first (rules : List RuleSet) {l : Bytes} (hl : 0x0A ∉ l) (bytes : Bytes) :
    unknownIn rules (l ++ bytes) =
      unknown rules [l ++ firstLine bytes] ++ unknown rules (Encoding.byteLines bytes).tail := by
  by_cases hne : bytes = []
  · subst hne
    rw [List.append_nil, unknownIn, firstLine, Encoding.byteLines_nil, List.headD_nil,
      List.append_nil, List.tail_nil]
    by_cases hl' : l = []
    · rw [hl']
      rfl
    · rw [Encoding.byteLines_unfinished hl' hl]
      exact (List.append_nil _).symm
  · rw [unknownIn, Encoding.byteLines_cut hl hne, unknown_cons]

/-- What the two parts of bytes deliver, and what the whole delivers: only the line that is cut
makes a difference. -/
theorem unknownIn_cut (rules : List RuleSet) (a b : Bytes) :
    ∃ before after,
      unknownIn rules a ++ unknownIn rules b =
        before ++ (unknown rules [openEnd a] ++ unknown rules [firstLine b]) ++ after ∧
      unknownIn rules (a ++ b) = before ++ unknown rules [openEnd a ++ firstLine b] ++ after := by
  obtain ⟨c, hc, hopen, ha⟩ := Encoding.exists_openEnd a
  refine ⟨unknownIn rules c, unknown rules (Encoding.byteLines b).tail, ?_, ?_⟩
  · have hfirst : unknownIn rules a = unknownIn rules c ++ unknown rules [openEnd a] := by
      have h := unknownIn_first rules hopen []
      rw [List.append_nil] at h
      conv => lhs; rw [ha]
      rw [unknownIn_append rules hc, h]
      simp [firstLine, Encoding.byteLines_nil, unknown]
    have hsecond := unknownIn_first rules (List.not_mem_nil (a := 0x0A)) b
    rw [List.nil_append, List.nil_append] at hsecond
    rw [hfirst, hsecond]
    simp only [List.append_assoc]
  · conv => lhs; rw [ha]
    rw [List.append_assoc, unknownIn_append rules hc, unknownIn_first rules hopen,
      List.append_assoc]

/-- Two parts of bytes deliver what the whole delivers just if the halves of the line that is cut
do. -/
theorem unknownIn_cut_iff (rules : List RuleSet) (a b : Bytes) :
    unknownIn rules a ++ unknownIn rules b = unknownIn rules (a ++ b) ↔
      unknown rules [openEnd a] ++ unknown rules [firstLine b] =
        unknown rules [openEnd a ++ firstLine b] := by
  obtain ⟨before, after, hparts, hwhole⟩ := unknownIn_cut rules a b
  rw [hparts, hwhole, List.append_left_inj, List.append_right_inj]

/-- The receiver that keeps all batches. -/
def keeping : Receiver (List (List Text)) := collecting fun _ _ => none

/-- Reading a file on from a marker of its own, or from none, delivers the rest to the receiver that
keeps all batches. -/
theorem logFile_keeping (rules : List RuleSet) {size : Int} (hsize : 1 ≤ size) {path : Text}
    {w : World} {f : File} (hf : w.fileAt? path = some f) {last : Option Marker} {start : Nat}
    (hlast : last = none ∧ start = 0 ∨ last = some ⟨f.inode, start⟩) (hstart : start ≤ f.size) :
    ∃ kept, logFile rules { batchSize := size } keeping path last none [] w =
        (⟨kept, .ok ⟨f.inode, f.size⟩⟩, w) ∧
      kept.flatten = unknownIn rules (f.bytes.drop start) := by
  obtain ⟨hnoted, hresume⟩ : noted path last f w = w ∧ Marker.resume last f 0 = start := by
    rcases hlast with ⟨rfl, rfl⟩ | rfl
    · exact ⟨rfl, rfl⟩
    · exact ⟨by rw [noted, Marker.restarts_own hstart]; rfl, Marker.resume_own hstart⟩
  have heq := logFile_eq rules { batchSize := size } keeping last hf (hnoted ▸ hf) []
  rw [hnoted, hresume] at heq
  rcases content_outcome rules hsize keeping f hstart [] rfl with
    ⟨batches, ha, hall, hres⟩ | ⟨before, b, after, s', fault, _, _, hfail, _⟩
  · refine ⟨batches, ?_, hall⟩
    rw [heq, hres, accepts_collecting ha, List.nil_append]
  · exact absurd (collecting_error hfail).2 (by simp)

/-- **Two parts of a file.**  A file is read to its end and, when it has grown, read on from the
marker.  Both times all batches are accepted, and the marker stands at the end.  What is delivered
is what the two parts hold, each by itself.  It is what the whole file delivers when it is read at
once just if the halves of the line that is cut come to the same as that line; so it is if the cut
stands at the end of a line or nothing follows it. -/
theorem halves_deliver_whole (rules : List RuleSet) {size size' size'' : Int} (hsize : 1 ≤ size)
    (hsize' : 1 ≤ size') (hsize'' : 1 ≤ size'') {path : Text} {inode : Nat} {a b : Bytes}
    {w w' : World} (hw : w.fileAt? path = some ⟨inode, a⟩)
    (hw' : w'.fileAt? path = some ⟨inode, a ++ b⟩) :
    ∃ first second whole,
      logFile rules { batchSize := size } keeping path none none [] w =
        (⟨first, .ok ⟨inode, a.length⟩⟩, w) ∧
      logFile rules { batchSize := size' } keeping path (some ⟨inode, a.length⟩) none [] w' =
        (⟨second, .ok ⟨inode, (a ++ b).length⟩⟩, w') ∧
      logFile rules { batchSize := size'' } keeping path none none [] w' =
        (⟨whole, .ok ⟨inode, (a ++ b).length⟩⟩, w') ∧
      first.flatten = unknownIn rules a ∧ second.flatten = unknownIn rules b ∧
      whole.flatten = unknownIn rules (a ++ b) ∧
      ((first ++ second).flatten = whole.flatten ↔
        unknown rules [openEnd a] ++ unknown rules [firstLine b] =
          unknown rules [openEnd a ++ firstLine b]) ∧
      (EndsLine a ∨ b = [] → (first ++ second).flatten = whole.flatten) := by
  obtain ⟨first, hrun, hfirst⟩ :=
    logFile_keeping rules hsize hw (Or.inl ⟨rfl, rfl⟩) (Nat.zero_le _)
  have hlen : a.length ≤ (File.mk inode (a ++ b)).size := by
    simp only [File.size, List.length_append]
    omega
  obtain ⟨second, hrun', hsecond⟩ := logFile_keeping rules hsize' hw' (Or.inr rfl) hlen
  obtain ⟨whole, hrun'', hwhole⟩ :=
    logFile_keeping rules hsize'' hw' (Or.inl ⟨rfl, rfl⟩) (Nat.zero_le _)
  rw [List.drop_zero] at hfirst hwhole
  rw [List.drop_left] at hsecond
  have hiff : (first ++ second).flatten = whole.flatten ↔
      unknown rules [openEnd a] ++ unknown rules [firstLine b] =
        unknown rules [openEnd a ++ firstLine b] := by
    rw [List.flatten_append, hfirst, hsecond, hwhole]
    exact unknownIn_cut_iff rules a b
  refine ⟨first, second, whole, hrun, hrun', hrun'', hfirst, hsecond, hwhole, hiff, ?_⟩
  intro h
  rw [hiff]
  rcases h with h | rfl
  · rw [Encoding.openEnd_of_endsLine h, unknown_blank, List.nil_append, List.nil_append]
  · simp [firstLine, Encoding.byteLines_nil, unknown_blank]

theorem halves_deliver_whole_between_lines :
    ∃ first second whole,
      logFile [] { batchSize := 1 } keeping "log" none none []
          (.ofFile "log" ⟨7, Encoding.encode "a\n"⟩) =
        (⟨first, .ok ⟨7, 2⟩⟩, .ofFile "log" ⟨7, Encoding.encode "a\n"⟩) ∧
      logFile [] { batchSize := 2 } keeping "log" (some ⟨7, 2⟩) none []
          (.ofFile "log" ⟨7, Encoding.encode "a\nb"⟩) =
        (⟨second, .ok ⟨7, 3⟩⟩, .ofFile "log" ⟨7, Encoding.encode "a\nb"⟩) ∧
      logFile [] { batchSize := 3 } keeping "log" none none []
          (.ofFile "log" ⟨7, Encoding.encode "a\nb"⟩) =
        (⟨whole, .ok ⟨7, 3⟩⟩, .ofFile "log" ⟨7, Encoding.encode "a\nb"⟩) ∧
      (first ++ second).flatten = whole.flatten := by
  have hw : (World.ofFile "log" ⟨7, Encoding.encode "a\n"⟩).fileAt? "log" =
      some ⟨7, Encoding.encode "a\n"⟩ := by decide
  have hw' : (World.ofFile "log" ⟨7, Encoding.encode "a\nb"⟩).fileAt? "log" =
      some ⟨7, Encoding.encode "a\n" ++ Encoding.encode "b"⟩ := by decide
  have h1 : (1 : Int) ≤ 1 := by decide
  have h2 : (1 : Int) ≤ 2 := by decide
  have h3 : (1 : Int) ≤ 3 := by decide
  obtain ⟨first, second, whole, h, h', h'', _, _, _, _, heq⟩ :=
    halves_deliver_whole [] h1 h2 h3 hw hw'
  exact ⟨first, second, whole, h, h', h'', heq (Or.inl (by decide))⟩

/-- A line that is cut is delivered in two parts. -/
theorem halves_of_line_delivered :
    let first := (logFile [] {} keeping "log" none none []
      (.ofFile "log" ⟨7, Encoding.encode "a"⟩)).1
    let second := (logFile [] {} keeping "log" (some ⟨7, 1⟩) none []
      (.ofFile "log" ⟨7, Encoding.encode "ab\n"⟩)).1
    let whole := (logFile [] {} keeping "log" none none []
      (.ofFile "log" ⟨7, Encoding.encode "ab\n"⟩)).1
    first.result = .ok ⟨7, 1⟩ ∧ second.result = .ok ⟨7, 3⟩ ∧ whole.result = .ok ⟨7, 3⟩ ∧
      (first.state ++ second.state).flatten = ["a", "b"] ∧ whole.state.flatten = ["ab"] ∧
      (first.state ++ second.state).flatten ≠ whole.state.flatten := by
  decide

end LineSift.Scan
