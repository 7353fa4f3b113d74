import LineSift.Proofs.Text.Replace

/-!
# Splitting as a walk over a text

Splitting walks over a text: where the separator begins a part ends and the separator is passed
over, and all else belongs to the part that is being read (`splitInduction`).  Put together again
with the separator in between, the parts are the text (`join_splitOn`).  So each of them stands in
the text, and in none of them does the separator (`not_infix_of_mem_splitOn`).
-/

namespace LineSift.Text

variable {sep : Text}

theorem splitFrom_drop (sep : Text) (skip : Nat) (t : Text) :
    splitFrom sep skip t = splitFrom sep 0 (t.drop skip) := by
  induction skip generalizing t with
  | zero => rfl
  | succ skip ih =>
    cases t with
    | nil => rfl
    | cons c t => exact ih t

theorem splitOn_found (hsep : sep ≠ []) (t : Text) :
    splitOn (sep ++ t) sep = [] :: splitOn t sep := by
  obtain ⟨c, rest, rfl⟩ := List.exists_cons_of_ne_nil hsep
  have hbegins : (c :: rest).isPrefixOf (c :: (rest ++ t)) :=
    List.isPrefixOf_iff_prefix.mpr (List.prefix_append (c :: rest) t)
  rw [splitOn, List.cons_append, splitFrom, if_pos hbegins, splitFrom_drop, List.length_cons,
    Nat.add_sub_cancel, List.drop_left]
  rfl

theorem splitOn_other {c : CodePoint} {t : Text} (h : ¬ sep <+: c :: t) :
    splitOn (c :: t) sep = (splitOn t sep).modifyHead (c :: ·) := by
  rw [splitOn, splitFrom, if_neg (mt List.isPrefixOf_iff_prefix.mp h)]
  rfl

theorem splitOn_ne_nil (t sep : Text) : t.splitOn sep ≠ [] := splitFrom_ne_nil sep 0 t

/-- Induction over a text as splitting walks over it. -/
theorem splitInduction (hsep : sep ≠ []) {motive : Text → Prop} (nil : motive [])
    (found : ∀ t, motive t → motive (sep ++ t))
    (other : ∀ c t, ¬ sep <+: c :: t → motive t → motive (c :: t)) : ∀ t, motive t
  | [] => nil
  | c :: t => by
    by_cases h : sep <+: c :: t
    · obtain ⟨rest, hrest⟩ := h
      have hshorter : rest.length < (c :: t).length := by
        have hpos := List.length_pos_iff.mpr hsep
        rw [← hrest, List.length_append]
        omega
      rw [← hrest]
      exact found rest (splitInduction hsep nil found other rest)
    · exact other c t h (splitInduction hsep nil found other t)
termination_by t => t.length
decreasing_by
  · exact hshorter
  · exact Nat.lt_succ_self _

/-- A text in which no separator begins goes to the part behind it. -/
theorem splitOn_append {a t : Text} (h : ∀ i < a.length, ¬ sep <+: a.drop i ++ t) :
    splitOn (a ++ t) sep = (splitOn t sep).modifyHead (a ++ ·) := by
  induction a with
  | nil =>
    rw [List.nil_append]
    exact (congrFun List.modifyHead_id _).symm
  | cons c a ih =>
    have hfirst : ¬ sep <+: c :: (a ++ t) := h 0 (Nat.succ_pos _)
    rw [List.cons_append, splitOn_other hfirst, ih fun i hi => h (i + 1) (Nat.succ_lt_succ hi),
      List.modifyHead_modifyHead]
    rfl

/-- A text in which the separator does not occur is a single part. -/
theorem splitOn_none {t : Text} (h : ∀ i < t.length, ¬ sep <+: t.drop i) : t.splitOn sep = [t] := by
  have hsplit : splitOn (t ++ []) sep = [t ++ []] := splitOn_append fun i hi hbegins =>
    h i hi (List.append_nil (t.drop i) ▸ hbegins)
  rwa [List.append_nil] at hsplit

/-- A text that occurs once is split there. -/
theorem splitOn_once {a b : Text} (hsep : sep ≠ [])
    (h : ∀ i < (a ++ sep ++ b).length, sep <+: (a ++ sep ++ b).drop i → i = a.length) :
    splitOn (a ++ sep ++ b) sep = [a, b] := by
  have hbefore : ∀ i < a.length, ¬ sep <+: a.drop i ++ (sep ++ b) := by
    intro i hi hoccurs
    rw [← List.drop_append_of_le_length (Nat.le_of_lt hi), ← List.append_assoc] at hoccurs
    have hplace := h i (by simp only [List.length_append]; omega) hoccurs
    omega
  have hbehind : ∀ i < b.length, ¬ sep <+: b.drop i := by
    intro i hi hoccurs
    have hdrop : (a ++ sep ++ b).drop (a ++ sep).length = b := List.drop_left
    rw [← hdrop, List.drop_drop] at hoccurs
    have hplace := h _ (by simp only [List.length_append]; omega) hoccurs
    have hpos := List.length_pos_iff.mpr hsep
    rw [List.length_append] at hplace
    omega
  rw [List.append_assoc, splitOn_append hbefore, splitOn_found hsep, splitOn_none hbehind,
    List.modifyHead_cons, List.append_nil]

/-! ## The parts and the whole -/

theorem join_splitOn (hsep : sep ≠ []) (t : Text) : join sep (t.splitOn sep) = t := by
  induction t using splitInduction hsep with
  | nil => rfl
  | found t ih => rw [splitOn_found hsep, join_cons _ _ (splitOn_ne_nil t sep), ih, List.nil_append]
  | other c t h ih => rw [splitOn_other h, join_modifyHead _ _ (splitOn_ne_nil t sep), ih]

theorem prefix_join (sep t : Text) (ts : List Text) : t <+: join sep (t :: ts) := by
  cases ts with
  | nil => exact List.prefix_refl t
  | cons u us =>
    rw [join_cons _ _ (List.cons_ne_nil u us), List.append_assoc]
    exact List.prefix_append _ _

theorem infix_join {t : Text} {ts : List Text} (h : t ∈ ts) : t <:+: join sep ts := by
  induction ts with
  | nil => exact absurd h List.not_mem_nil
  | cons u us ih =>
    rcases List.mem_cons.mp h with rfl | h
    · exact (prefix_join sep t us).isInfix
    · rw [join_cons _ _ (List.ne_nil_of_mem h)]
      exact (ih h).trans (List.suffix_append _ _).isInfix

/-- Each part stands in the text. -/
theorem infix_of_mem_splitOn (hsep : sep ≠ []) {t u : Text} (h : u ∈ t.splitOn sep) : u <:+: t := by
  have hjoin : u <:+: join sep (t.splitOn sep) := infix_join h
  rwa [join_splitOn hsep] at hjoin

/-- The separator stands in no part. -/
theorem not_infix_of_mem_splitOn (hsep : sep ≠ []) {t u : Text} (h : u ∈ t.splitOn sep) :
    ¬ sep <:+: u := by
  induction t using splitInduction hsep generalizing u with
  | nil =>
    rw [List.mem_singleton.mp h]
    exact fun hinfix => hsep (List.infix_nil.mp hinfix)
  | found t ih =>
    rw [splitOn_found hsep] at h
    rcases List.mem_cons.mp h with rfl | h
    · exact fun hinfix => hsep (List.infix_nil.mp hinfix)
    · exact ih h
  | other c t hc ih =>
    obtain ⟨v, vs, hsplit⟩ := List.exists_cons_of_ne_nil (splitOn_ne_nil t sep)
    rw [splitOn_other hc, hsplit, List.modifyHead_cons] at h
    rw [hsplit] at ih
    rcases List.mem_cons.mp h with rfl | h
    · -- the first part is a beginning of the text, where the separator does not begin
      have hv : v <+: t := by
        have hjoin := prefix_join sep v vs
        rwa [← hsplit, join_splitOn hsep] at hjoin
      intro hinfix
      rcases List.infix_cons_iff.mp hinfix with hbegins | hinfix
      · exact hc (hbegins.trans ((List.prefix_cons_inj c).mpr hv))
      · exact ih List.mem_cons_self hinfix
    · exact ih (List.mem_cons_of_mem _ h)

end LineSift.Text
