import LineSift.Proofs.Scan.Cut

/-!
# Lines that are texts already

Lines that need no decoding are taken one after the other to the last, whatever the size of the
batches, and a receiver that keeps all batches holds the unknown ones in order (`run_texts`).
-/

namespace LineSift.Scan

theorem numbered_texts (lines : List (Except Encoding.Error Text)) :
    (numbered lines).map Line.text = lines := by
  rw [numbered, List.map_map]
  exact List.zipIdx_map_fst 0 lines

/-- The number of the last line is the number of lines. -/
theorem numbered_last (lines : List (Except Encoding.Error Text)) :
    ((numbered lines).getLast?.map Line.stop).getD 0 = lines.length := by
  rcases List.eq_nil_or_concat lines with rfl | ⟨lines, line, rfl⟩
  · rfl
  · rw [List.concat_eq_append, numbered, List.zipIdx_append, List.map_append]
    simp

/-- The unknown lines of a list of texts are handed out in order, no batch is empty, and all texts
are taken. -/
theorem run_texts (rules : List RuleSet) {size : Int} (hsize : 1 ≤ size) (texts : List Text) :
    ∃ kept received,
      run rules size keeping 0 (numbered (texts.map .ok)) [] =
        { state := kept, taken := texts.length, received, failure := none } ∧
      kept.flatten = (texts.map Text.strip).filter (isUnknown rules) ∧ [] ∉ kept := by
  obtain ⟨hend, hlines⟩ :=
    plan_of_texts rules size.toNat (numbered_texts (texts.map .ok)) [] 0
  rw [numbered_last, List.length_map] at hend
  rw [run, if_neg (Int.not_lt.mpr hsize), loop_eq_feed, hend]
  rcases feed_cases keeping ⟨none, texts.length⟩
      (plan rules size.toNat (numbered (texts.map .ok)) [] 0).1 0 [] with
    ⟨kept, hkept, heq⟩ | ⟨_, _, _, _, _, _, _, _, hfail, _⟩
  · have hall := accepts_collecting hkept
    rw [List.nil_append] at hall
    refine ⟨kept, _, heq, ?_, fun hmem => ?_⟩
    · rw [hall, hlines, List.nil_append]
    · rw [hall] at hmem
      obtain ⟨b, hb, hnil⟩ := List.mem_map.mp hmem
      exact lines_ne_nil_of_mem_plan rules _ _ _ _ b hb hnil
  · exact absurd (collecting_error hfail).2 (by simp)

/-- Of texts that are all known nothing is handed out. -/
theorem run_known (rules : List RuleSet) {size : Int} (hsize : 1 ≤ size) {texts : List Text}
    (hknown : ∀ t ∈ texts, RuleSet.anyKnows rules t.strip = true) :
    ∃ received, run rules size keeping 0 (numbered (texts.map .ok)) [] =
      { state := [], taken := texts.length, received, failure := none } := by
  obtain ⟨kept, received, hrun, hkept, hnil⟩ := run_texts rules hsize texts
  have hnone : (texts.map Text.strip).filter (isUnknown rules) = [] := by
    rw [List.filter_eq_nil_iff, List.forall_mem_map]
    intro t ht
    rw [isUnknown, hknown t ht]
    simp
  rw [hnone, List.flatten_eq_nil_iff] at hkept
  obtain rfl : kept = [] := List.eq_nil_iff_forall_not_mem.mpr fun batch hbatch =>
    hnil (hkept batch hbatch ▸ hbatch)
  exact ⟨received, hrun⟩

end LineSift.Scan
