import LineSift.Text.Replace

/-!
# Replacement as a walk over a text

Replacing the occurrences of a text is defined by splitting and joining.  It is a single walk over
the text as well (`replaceFrom`): where an occurrence begins the new text is written and the
occurrence is passed over, and all else is copied.
-/

namespace LineSift.Text

/-- A text has at least one part. -/
theorem splitFrom_ne_nil (sep : Text) (skip : Nat) (t : Text) : splitFrom sep skip t ≠ [] := by
  induction t generalizing skip with
  | nil =>
    cases skip <;> exact List.cons_ne_nil _ _
  | cons c t ih =>
    cases skip with
    | zero =>
      rw [splitFrom]
      split
      · exact List.cons_ne_nil _ _
      · intro h
        exact ih 0 (List.modifyHead_eq_nil_iff.mp h)
    | succ skip => exact ih skip

/-- The first of several parts comes with a separator behind it. -/
theorem join_cons (sep t : Text) {ts : List Text} (h : ts ≠ []) :
    join sep (t :: ts) = t ++ sep ++ join sep ts := by
  cases ts with
  | nil => exact absurd rfl h
  | cons u us => rfl

theorem join_modifyHead (sep : Text) (c : CodePoint) {ts : List Text} (h : ts ≠ []) :
    join sep (ts.modifyHead (c :: ·)) = c :: join sep ts := by
  cases ts with
  | nil => exact absurd rfl h
  | cons t ts =>
    cases ts with
    | nil => rfl
    | cons u us => rfl

/-- A text with every occurrence of `old` replaced, after `skip` more code points of
an occurrence. -/
def replaceFrom (old new : Text) (skip : Nat) (t : Text) : Text := join new (splitFrom old skip t)

theorem replaceAll_eq (t old new : Text) : t.replaceAll old new = replaceFrom old new 0 t := rfl

section Walk

variable (old new : Text)

theorem replaceFrom_nil (skip : Nat) : replaceFrom old new skip [] = [] := by
  cases skip <;> rfl

variable {old}

/-- An occurrence is replaced, and what it covers is skipped. -/
theorem replaceFrom_match {c : CodePoint} {t : Text} (h : old <+: c :: t) :
    replaceFrom old new 0 (c :: t) = new ++ replaceFrom old new (old.length - 1) t := by
  rw [replaceFrom, splitFrom, if_pos (List.isPrefixOf_iff_prefix.mpr h),
    join_cons new [] (splitFrom_ne_nil _ _ _)]
  rfl

/-- Where there is no occurrence the code point stays. -/
theorem replaceFrom_step {c : CodePoint} {t : Text} (h : ¬ old <+: c :: t) :
    replaceFrom old new 0 (c :: t) = c :: replaceFrom old new 0 t := by
  rw [replaceFrom, splitFrom, if_neg (mt List.isPrefixOf_iff_prefix.mp h),
    join_modifyHead new c (splitFrom_ne_nil _ _ _)]
  rfl

/-- Text in which no occurrence begins is copied. -/
theorem replaceFrom_copy {a t : Text} (h : ∀ i < a.length, ¬ old <+: a.drop i ++ t) :
    replaceFrom old new 0 (a ++ t) = a ++ replaceFrom old new 0 t := by
  induction a with
  | nil => rfl
  | cons c a ih =>
    have hfirst : ¬ old <+: c :: (a ++ t) := h 0 (Nat.succ_pos _)
    rw [List.cons_append, replaceFrom_step new hfirst,
      ih fun i hi => h (i + 1) (Nat.succ_lt_succ hi)]
    rfl

/-- Where the first code point of what is to be replaced does not occur, nothing is replaced. -/
theorem replaceAll_of_not_mem {c : CodePoint} {t : Text} (h : c ∉ t) :
    t.replaceAll (c :: old) new = t := by
  have hnone : ∀ i < t.length, ¬ c :: old <+: t.drop i ++ [] := fun i _ hbegins =>
    h (List.mem_of_mem_drop (List.append_nil (t.drop i) ▸ hbegins.subset List.mem_cons_self))
  have hcopy := replaceFrom_copy new hnone
  rwa [replaceFrom_nil, List.append_nil] at hcopy

end Walk

end LineSift.Text
