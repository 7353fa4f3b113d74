import LineSift.Encoding.Decode

/-!
# Cutting bytes into lines

`byteLines` cuts bytes behind each line feed.  Nothing is lost (`flatten_byteLines`), and bytes that
end with a line feed can be cut apart from what follows them (`byteLines_append`): this is what
makes it possible to read a file on from the end of a line.  Where bytes are cut within a line, its
second half is taken for a line of its own (`byteLines_cut`).  The induction over lines
(`lineInduction`) is the way in which facts about lines are proved here.
-/

namespace LineSift.Encoding

/-- Bytes that are empty or end with a line feed, so that no line of them is unfinished. -/
def EndsLine (bytes : Bytes) : Prop := bytes = [] ∨ bytes.getLast? = some 0x0A

instance (bytes : Bytes) : Decidable (EndsLine bytes) :=
  inferInstanceAs (Decidable (_ ∨ _))

theorem EndsLine.nil : EndsLine [] := Or.inl rfl

theorem endsLine_concat (bytes : Bytes) : EndsLine (bytes ++ [0x0A]) :=
  Or.inr (by simp)

theorem EndsLine.append {a b : Bytes} (ha : EndsLine a) (hb : EndsLine b) : EndsLine (a ++ b) := by
  rcases hb with rfl | hb
  · simpa using ha
  · exact Or.inr (by simp [List.getLast?_append, hb])

/-- Behind a line feed, only the rest decides whether the bytes end a line. -/
theorem EndsLine.of_line {body rest : Bytes} (h : EndsLine (body ++ 0x0A :: rest)) :
    EndsLine rest := by
  rcases h with h | h
  · simp at h
  · cases rest with
    | nil => exact .nil
    | cons b rest => exact Or.inr (by simpa [List.getLast?_append] using h)

/-- So do the bytes from any position on. -/
theorem EndsLine.drop {bytes : Bytes} (h : EndsLine bytes) (n : Nat) : EndsLine (bytes.drop n) := by
  rcases h with h | h
  · exact Or.inl (by rw [h, List.drop_nil])
  · by_cases he : bytes.drop n = []
    · exact Or.inl he
    · rw [← List.take_append_drop n bytes, List.getLast?_append,
        List.getLast?_eq_some_getLast he, Option.some_or] at h
      exact Or.inr (by rw [List.getLast?_eq_some_getLast he]; exact h)

/-! ## Induction over lines -/

/-- Bytes without a line feed are one line. -/
theorem byteLines_unfinished {bytes : Bytes} (hne : bytes ≠ []) (h : 0x0A ∉ bytes) :
    byteLines bytes = [bytes] := by
  induction bytes with
  | nil => exact absurd rfl hne
  | cons b bs ih =>
    have hb : b ≠ 0x0A := fun e => h (by simp [e])
    rw [byteLines, if_neg hb]
    cases bs with
    | nil => rfl
    | cons c cs =>
      rw [ih (by simp) fun hm => h (List.mem_cons_of_mem _ hm)]

/-- The first line ends at the first line feed. -/
theorem byteLines_line {body : Bytes} (h : 0x0A ∉ body) (rest : Bytes) :
    byteLines (body ++ 0x0A :: rest) = (body ++ [0x0A]) :: byteLines rest := by
  induction body with
  | nil => simp [byteLines]
  | cons b bs ih =>
    have hb : b ≠ 0x0A := fun e => h (by simp [e])
    rw [List.cons_append, byteLines, if_neg hb, ih fun hm => h (List.mem_cons_of_mem _ hm)]
    rfl

/-- What holds of no bytes, of an unfinished line, and of a line before bytes of which it holds,
holds of all bytes. -/
theorem lineInduction {motive : Bytes → Prop} (nil : motive [])
    (unfinished : ∀ bytes, bytes ≠ [] → 0x0A ∉ bytes → motive bytes)
    (line : ∀ body rest, 0x0A ∉ body → motive rest → motive (body ++ 0x0A :: rest))
    (bytes : Bytes) : motive bytes := by
  induction h : bytes.length using Nat.strongRecOn generalizing bytes with
  | _ n ih =>
    by_cases hm : (0x0A : UInt8) ∈ bytes
    · obtain ⟨body, rest, rfl, hbody⟩ := List.eq_append_cons_of_mem hm
      refine line body rest hbody (ih rest.length ?_ rest rfl)
      simp only [List.length_append, List.length_cons] at h
      omega
    · by_cases hne : bytes = []
      · exact hne ▸ nil
      · exact unfinished bytes hne hm

/-! ## Lines and bytes -/

theorem byteLines_nil : byteLines [] = [] := rfl

/-- The lines together are the bytes. -/
theorem flatten_byteLines (bytes : Bytes) : (byteLines bytes).flatten = bytes := by
  induction bytes using lineInduction with
  | nil => rfl
  | unfinished bytes hne h => simp [byteLines_unfinished hne h]
  | line body rest h ih => simp [byteLines_line h, ih]

/-- Bytes that end a line can be cut into lines apart from what follows them. -/
theorem byteLines_append {a : Bytes} (ha : EndsLine a) (b : Bytes) :
    byteLines (a ++ b) = byteLines a ++ byteLines b := by
  induction a using lineInduction with
  | nil => rfl
  | unfinished bytes hne h =>
    rcases ha with rfl | ha
    · exact absurd rfl hne
    · exact absurd (List.mem_of_getLast? ha) h
  | line body rest h ih =>
    rw [List.append_assoc, List.cons_append, byteLines_line h, byteLines_line h, ih ha.of_line,
      List.cons_append]

/-- The first lines of bytes that end a line are the lines of a part of the bytes that ends a
line. -/
theorem byteLines_take {bytes : Bytes} (hb : EndsLine bytes) (n : Nat) :
    EndsLine ((byteLines bytes).take n).flatten ∧
      byteLines ((byteLines bytes).take n).flatten = (byteLines bytes).take n := by
  induction bytes using lineInduction generalizing n with
  | nil => simp [byteLines, EndsLine.nil]
  | unfinished bytes hne h =>
    rcases hb with rfl | hb
    · exact absurd rfl hne
    · exact absurd (List.mem_of_getLast? hb) h
  | line body rest h ih =>
    cases n with
    | zero => simp [byteLines, EndsLine.nil]
    | succ n =>
      obtain ⟨he, hl⟩ := ih hb.of_line n
      rw [byteLines_line h, List.take_succ_cons, List.flatten_cons]
      refine ⟨(endsLine_concat body).append he, ?_⟩
      rw [List.append_assoc, List.singleton_append, byteLines_line h, hl]

/-- A line is a text without line feeds, with a line feed behind it unless it is unfinished. -/
theorem mem_byteLines {bytes l : Bytes} (h : l ∈ byteLines bytes) :
    ∃ body, 0x0A ∉ body ∧ (l = body ∨ l = body ++ [0x0A]) := by
  induction bytes using lineInduction with
  | nil => simp [byteLines] at h
  | unfinished bytes hne hb =>
    rw [byteLines_unfinished hne hb, List.mem_singleton] at h
    exact ⟨bytes, hb, Or.inl h⟩
  | line body rest hb ih =>
    rw [byteLines_line hb] at h
    rcases List.mem_cons.mp h with rfl | h
    · exact ⟨body, hb, Or.inr rfl⟩
    · exact ih h

/-! ## A line that is cut -/

/-- The unfinished line at the end of bytes, without any bytes if the last line is finished. -/
def openEnd (bytes : Bytes) : Bytes := (bytes.reverse.takeWhile (· ≠ 0x0A)).reverse

/-- The first line of bytes. -/
def firstLine (bytes : Bytes) : Bytes := (byteLines bytes).headD []

/-- Before an unfinished line there are finished ones. -/
theorem exists_openEnd (bytes : Bytes) :
    ∃ a, EndsLine a ∧ 0x0A ∉ openEnd bytes ∧ bytes = a ++ openEnd bytes := by
  refine ⟨(bytes.reverse.dropWhile (· ≠ 0x0A)).reverse, ?_, ?_, ?_⟩
  · cases h : bytes.reverse.dropWhile (· ≠ 0x0A) with
    | nil => exact .nil
    | cons b bs =>
      have hb : b = 0x0A := by
        have := List.head?_dropWhile_not (fun b : UInt8 => decide (b ≠ 0x0A)) bytes.reverse
        rw [h] at this
        simpa using this
      rw [List.reverse_cons, hb]
      exact endsLine_concat _
  · intro hm
    have hall := List.all_eq_true.mp List.all_takeWhile _ (List.mem_reverse.mp hm)
    exact absurd rfl (of_decide_eq_true hall)
  · rw [openEnd, ← List.reverse_append, List.takeWhile_append_dropWhile, List.reverse_reverse]

/-- No line is unfinished where a line ends. -/
theorem openEnd_of_endsLine {bytes : Bytes} (h : EndsLine bytes) : openEnd bytes = [] := by
  rcases h with rfl | h
  · rfl
  · obtain ⟨before, rfl⟩ := List.getLast?_eq_some_iff.mp h
    rw [openEnd, List.reverse_append]
    rfl

/-- Bytes behind an unfinished line make their first line longer. -/
theorem byteLines_cut {l : Bytes} (hl : 0x0A ∉ l) {bytes : Bytes} (hne : bytes ≠ []) :
    byteLines (l ++ bytes) = (l ++ firstLine bytes) :: (byteLines bytes).tail := by
  by_cases hm : (0x0A : UInt8) ∈ bytes
  · obtain ⟨body, rest, rfl, hbody⟩ := List.eq_append_cons_of_mem hm
    have hboth : (0x0A : UInt8) ∉ l ++ body := fun h => (List.mem_append.mp h).elim hl hbody
    rw [firstLine, byteLines_line hbody, ← List.append_assoc, byteLines_line hboth]
    simp
  · have hboth : (0x0A : UInt8) ∉ l ++ bytes := fun h => (List.mem_append.mp h).elim hl hm
    rw [firstLine, byteLines_unfinished hne hm, byteLines_unfinished (by simp [hne]) hboth]
    rfl

end LineSift.Encoding
