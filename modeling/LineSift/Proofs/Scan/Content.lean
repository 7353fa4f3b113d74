import LineSift.Proofs.Scan.Plan
import LineSift.Scan.LogFile

/-!
# What reading a file on delivers

A file is read from a position to its end.  If the receiver accepts all batches, they are together
the unknown lines from that position on, and the marker stands at the end (`content_cases`).  If it
fails, the marker stands at the end of a line, the batches accepted are the unknown lines before it,
and the batch that was refused begins the unknown lines behind it.  So nothing is lost between the
two parts, and nothing belongs to both.
-/

namespace LineSift.Scan

open Encoding (EndsLine)

/-- The unknown lines of bytes. -/
def unknownIn (rules : List RuleSet) (bytes : Bytes) : List Text :=
  unknown rules (Encoding.byteLines bytes)

/-- Where a line ends, the unknown lines can be told apart. -/
theorem unknownIn_append (rules : List RuleSet) {a : Bytes} (ha : EndsLine a) (b : Bytes) :
    unknownIn rules (a ++ b) = unknownIn rules a ++ unknownIn rules b := by
  rw [unknownIn, Encoding.byteLines_append ha, unknown_append]
  rfl

/-- The unknown lines before a position and those behind it, where a line ends at the position. -/
theorem unknownIn_take_drop (rules : List RuleSet) {bytes : Bytes} {pos : Nat}
    (h : EndsLine (bytes.take pos)) :
    unknownIn rules bytes =
      unknownIn rules (bytes.take pos) ++ unknownIn rules (bytes.drop pos) := by
  rw [← unknownIn_append rules h, List.take_append_drop]

/-- The unknown lines before a position are those before an earlier one and those in between. -/
theorem unknownIn_take_mono (rules : List RuleSet) {bytes : Bytes} {start pos : Nat}
    (h : EndsLine (bytes.take start)) (hle : start ≤ pos) :
    unknownIn rules (bytes.take pos) =
      unknownIn rules (bytes.take start) ++ unknownIn rules ((bytes.take pos).drop start) := by
  have ht : (bytes.take pos).take start = bytes.take start := by
    rw [List.take_take, Nat.min_eq_left hle]
  have h' : EndsLine ((bytes.take pos).take start) := by rwa [ht]
  rw [unknownIn_take_drop rules h', ht]

/-- The end of some of the first lines of bytes, as a position in them. -/
theorem line_position {bytes : Bytes} (h : EndsLine bytes) (n : Nat) :
    ∃ k, k = ((Encoding.byteLines bytes).take n).flatten.length ∧ k ≤ bytes.length ∧
      bytes.take k = ((Encoding.byteLines bytes).take n).flatten ∧ EndsLine (bytes.take k) ∧
      Encoding.byteLines (bytes.take k) = (Encoding.byteLines bytes).take n := by
  have hsplit : ((Encoding.byteLines bytes).take n).flatten ++
      ((Encoding.byteLines bytes).drop n).flatten = bytes := by
    rw [← List.flatten_append, List.take_append_drop, Encoding.flatten_byteLines]
  obtain ⟨hends, hlines⟩ := Encoding.byteLines_take h n
  have htake : bytes.take ((Encoding.byteLines bytes).take n).flatten.length =
      ((Encoding.byteLines bytes).take n).flatten := by
    conv => lhs; arg 2; rw [← hsplit]
    rw [List.take_left]
  refine ⟨_, rfl, ?_, htake, by rw [htake]; exact hends, ?_⟩
  · have := congrArg List.length hsplit
    rw [List.length_append] at this
    omega
  · rw [htake, hlines]

variable {σ : Type}

/-- Reading a file on hands out the batches of its plan. -/
theorem content_eq_feed (rules : List RuleSet) {size : Int} (hsize : 1 ≤ size)
    (receive : Receiver σ) (f : File) (start : Nat) (s : σ) :
    content rules { batchSize := size } receive f start s =
      feed receive ⟨none, start + (f.bytes.drop start).length⟩
        (filePlan rules size.toNat (Encoding.byteLines (f.bytes.drop start)) [] start).1
        start s := by
  have hend := filePlan_ending rules size.toNat (Encoding.byteLines (f.bytes.drop start)) [] start
  rw [Encoding.flatten_byteLines] at hend
  have hpos : ¬ ({ batchSize := size } : Settings).batchSize < 1 := Int.not_lt.mpr hsize
  rw [content, run, if_neg hpos, loop_eq_feed]
  rw [filePlan] at hend ⊢
  rw [hend]

/-- Behind any number of batches of the plan for a file, there is a place where a line ends, up to
which the batches are the unknown lines. -/
theorem reached_place (rules : List RuleSet) (size : Nat) {bytes : Bytes} {start : Nat}
    (hends : EndsLine bytes) {before after : List Batch}
    (h : (filePlan rules size (Encoding.byteLines bytes) [] start).1 = before ++ after) :
    ∃ k, k ≤ bytes.length ∧ reached start before = start + k ∧ EndsLine (bytes.take k) ∧
      (before.map Batch.lines).flatten = unknownIn rules (bytes.take k) := by
  rcases List.eq_nil_or_concat before with rfl | ⟨bs, b, rfl⟩
  · exact ⟨0, Nat.zero_le _, rfl, .nil, rfl⟩
  · rw [List.concat_eq_append] at h ⊢
    rw [List.append_assoc] at h
    obtain ⟨n, hstop, hlines⟩ := filePlan_reached rules size h
    obtain ⟨k, hk, hle, -, hpos, hcut⟩ := line_position hends n
    refine ⟨k, hle, ?_, hpos, ?_⟩
    · simp only [reached, List.getLast?_append, List.getLast?_singleton, Option.some_or,
        Option.map_some, Option.getD_some]
      rw [hstop, hk]
    · rw [hlines, List.nil_append, unknownIn, hcut]

/-- Reading a file on ends at the end of the file, with all its unknown lines from the position on
accepted, or at the first batch of its plan that the receiver fails at. -/
theorem content_outcome (rules : List RuleSet) {size : Int} (hsize : 1 ≤ size)
    (receive : Receiver σ) (f : File) {start : Nat} (hstart : start ≤ f.size) (s : σ)
    {o : Outcome σ} (ho : content rules { batchSize := size } receive f start s = o) :
    (∃ batches, Accepts receive batches s o.state ∧
      batches.flatten = unknownIn rules (f.bytes.drop start) ∧
      conclude f.inode o = .ok ⟨f.inode, f.size⟩) ∨
    (∃ before b after s' fault,
      (filePlan rules size.toNat (Encoding.byteLines (f.bytes.drop start)) [] start).1 =
        before ++ b :: after ∧
      Accepts receive (before.map Batch.lines) s s' ∧
      receive b.lines s' = (.error fault, o.state) ∧
      conclude f.inode o =
        .error (.stopped (.receiver fault) (some ⟨f.inode, reached start before⟩))) := by
  have hlen : (f.bytes.drop start).length = f.size - start := List.length_drop
  rw [content_eq_feed rules hsize] at ho
  rcases feed_cases receive ⟨none, start + (f.bytes.drop start).length⟩
      (filePlan rules size.toNat (Encoding.byteLines (f.bytes.drop start)) [] start).1 start s with
    ⟨s', ha, he⟩ | ⟨before, b, after, s', s'', fault, hplan, ha, hb, he⟩
  · refine Or.inl ⟨_, by rw [← ho, he]; exact ha, ?_, ?_⟩
    · exact filePlan_lines rules size.toNat (Encoding.byteLines (f.bytes.drop start)) [] start
    · rw [← ho, he, conclude]
      simp only [Option.map_none]
      rw [hlen, Nat.add_sub_cancel' hstart]
  · refine Or.inr ⟨before, b, after, s', fault, hplan, ha, by rw [← ho, he]; exact hb, ?_⟩
    rw [← ho, he, conclude]

/-- **Reading a file on** delivers its unknown lines from a position to the end, or up to the end of
a line in front of the batch that the receiver fails at. -/
theorem content_cases (rules : List RuleSet) {size : Int} (hsize : 1 ≤ size)
    (receive : Receiver σ) (f : File) {start : Nat} (hstart : start ≤ f.size)
    (hends : EndsLine f.bytes) (hat : EndsLine (f.bytes.take start)) (s : σ) {o : Outcome σ}
    (ho : content rules { batchSize := size } receive f start s = o) :
    (∃ batches, Accepts receive batches s o.state ∧
      batches.flatten = unknownIn rules (f.bytes.drop start) ∧
      conclude f.inode o = .ok ⟨f.inode, f.size⟩) ∨
    (∃ batches batch s' fault pos, Accepts receive batches s s' ∧
      receive batch s' = (.error fault, o.state) ∧
      conclude f.inode o = .error (.stopped (.receiver fault) (some ⟨f.inode, pos⟩)) ∧
      start ≤ pos ∧ pos ≤ f.size ∧ EndsLine (f.bytes.take pos) ∧
      batches.flatten = unknownIn rules ((f.bytes.take pos).drop start) ∧
      batch <+: unknownIn rules (f.bytes.drop pos) ∧ batch.length ≤ size.toNat) := by
  rcases content_outcome rules hsize receive f hstart s ho with
    hall | ⟨before, b, after, s', fault, hplan, ha, hb, he⟩
  · exact Or.inl hall
  · have hlen : (f.bytes.drop start).length = f.size - start := List.length_drop
    obtain ⟨k, hk, hreached, hpos, hlines⟩ :=
      reached_place rules size.toNat (hends.drop start) hplan
    have hcut : (f.bytes.take (start + k)).drop start = (f.bytes.drop start).take k := by
      rw [List.drop_take, Nat.add_sub_cancel_left]
    refine Or.inr ⟨_, b.lines, s', fault, start + k, ha, hb, by rw [he, hreached],
      Nat.le_add_right _ _, by omega, ?_, by rw [hcut]; exact hlines, ?_, ?_⟩
    · rw [← List.take_append_drop start (f.bytes.take (start + k)), hcut, List.take_take,
        Nat.min_eq_left (Nat.le_add_right _ _)]
      exact hat.append hpos
    · have hall := filePlan_lines rules size.toNat
        (Encoding.byteLines (f.bytes.drop start)) [] start
      have htotal : (before.map Batch.lines).flatten ++
          (b.lines ++ (after.map Batch.lines).flatten) = unknownIn rules (f.bytes.drop start) := by
        rw [unknownIn, ← List.nil_append (unknown rules _), ← hall, hplan]
        simp
      rw [unknownIn_take_drop rules hpos, hlines, List.append_cancel_left_eq, List.drop_drop]
        at htotal
      exact ⟨_, htotal⟩
    · have hnone : ([] : List Text).length < size.toNat := by
        rw [List.length_nil]
        omega
      exact filePlan_size rules _ hnone start b (by rw [hplan]; simp)

end LineSift.Scan
