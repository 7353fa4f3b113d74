import LineSift.Marker.Basic

/-!
# Where a marker leads

A marker leads to its offset in the file it was taken on, as long as the file reaches so far
(`resume_of_fits`, `resume_own`).  If it has a number, it leads to the beginning of any other file
that has one (`resume_of_not_fits`, `resume_replaced`), and of a file that has become shorter
(`resume_shorter`).
-/

namespace LineSift.Marker

theorem isZero_of_inode {m : Marker} (h : m.inode ≠ 0) : m.isZero = false := by
  simp [isZero, h]

/-- A marker may have been taken on a file: the numbers do not tell that it was another one, and the
file reaches to the offset. -/
def Fits (m : Marker) (f : File) : Prop := (m.inode = 0 ∨ m.inode = f.inode) ∧ m.offset ≤ f.size

theorem Fits.isStale {m : Marker} {f : File} (h : m.Fits f) : m.isStale f = false := by
  obtain ⟨hinode, hle⟩ := h
  simp only [Marker.isStale, decide_eq_false_iff_not]
  omega

theorem fits_own {f : File} {offset : Nat} (hle : offset ≤ f.size) :
    Fits ⟨f.inode, offset⟩ f := ⟨Or.inr rfl, hle⟩

/-- Such a marker leads to its offset, which is the beginning if it says nothing. -/
theorem resume_of_fits {m : Marker} {f : File} (h : m.Fits f) : resume (some m) f 0 = m.offset := by
  simp only [resume, h.isStale, Bool.false_eq_true, if_false]
  split
  · next hz =>
    simp only [isZero, decide_eq_true_eq] at hz
    exact hz.2.symm
  · rfl

/-- A file with a number is read from its beginning if a marker was not taken on it. -/
theorem resume_of_not_fits {m : Marker} {f : File} (hf : f.inode ≠ 0) (h : ¬ m.Fits f) (pos : Nat) :
    resume (some m) f pos = 0 := by
  unfold Fits at h
  have hzero : m.isZero = false := by
    simp only [isZero, decide_eq_false_iff_not]
    omega
  have hstale : m.isStale f = true := by
    simp only [isStale, decide_eq_true_eq]
    omega
  simp only [resume, hzero, hstale, Bool.false_eq_true, if_false, if_true]

theorem resume_own {f : File} {offset : Nat} (hle : offset ≤ f.size) :
    resume (some ⟨f.inode, offset⟩) f 0 = offset := resume_of_fits (fits_own hle)

/-- The file is not read from its beginning because of it. -/
theorem restarts_own {f : File} {offset : Nat} (hle : offset ≤ f.size) :
    restarts (some ⟨f.inode, offset⟩) f = false := by
  simp only [restarts, (fits_own hle).isStale, Bool.and_false]

/-- A file with another number is read from its beginning. -/
theorem resume_replaced {m : Marker} {f : File} (hm : m.inode ≠ 0) (hf : f.inode ≠ 0)
    (hne : m.inode ≠ f.inode) (pos : Nat) : resume (some m) f pos = 0 := by
  apply resume_of_not_fits hf
  rintro ⟨hzero | hsame, -⟩
  · exact hm hzero
  · exact hne hsame

/-- A file that does not reach to the offset is read from its beginning. -/
theorem resume_shorter {m : Marker} {f : File} (hm : m.inode ≠ 0) (hlt : f.size < m.offset)
    (pos : Nat) : resume (some m) f pos = 0 := by
  have hstale : m.isStale f = true := by
    simp [isStale, hlt]
  simp only [resume, isZero_of_inode hm, hstale, Bool.false_eq_true, if_false, if_true]

end LineSift.Marker
