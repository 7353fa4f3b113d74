import LineSift.Regex.Escape

/-!
# Occurrences of quoted texts in quoted texts

Quoting writes each code point as a unit of its own, of one or two code points.  So one quoted text
begins another one just if the texts do (`quote_prefix_iff`).  An occurrence that begins in the
middle of a unit begins there with a backslash that is quoted itself, and then all of it consists of
quoted backslashes (`prefix_of_misaligned`): there is an occurrence at the beginning of the unit as
well, and whoever looks for occurrences from left to right has found that one before.
-/

namespace LineSift.Regex

/-- The backslash. -/
def backslash : CodePoint := .char '\\'

theorem isSpecial_backslash : isSpecial backslash = true := by decide

/-- A code point with a meaning in patterns gets a backslash. -/
theorem escapeOne_special {c : CodePoint} (h : isSpecial c = true) :
    escapeOne c = [backslash, c] := by
  rw [escapeOne, if_pos h]
  rfl

theorem escapeOne_plain {c : CodePoint} (h : ¬ isSpecial c = true) : escapeOne c = [c] := by
  rw [escapeOne, if_neg h]

theorem quote_cons (c : CodePoint) (t : Text) : quote (c :: t) = escapeOne c ++ quote t :=
  List.flatMap_cons

theorem escapeOne_ne_nil (c : CodePoint) : escapeOne c ≠ [] := by
  unfold escapeOne
  split <;> exact List.cons_ne_nil _ _

/-- A text that is not empty is not quoted away. -/
theorem quote_ne_nil {t : Text} (h : t ≠ []) : quote t ≠ [] := by
  cases t with
  | nil => exact absurd rfl h
  | cons c t =>
    rw [quote_cons]
    exact List.append_ne_nil_of_left_ne_nil (escapeOne_ne_nil c) _

/-- Different code points are written differently, and none is written as the beginning
of another. -/
theorem escapeOne_prefix {c d : CodePoint} {s t : Text}
    (h : escapeOne c ++ s <+: escapeOne d ++ t) : c = d ∧ s <+: t := by
  by_cases hc : isSpecial c = true
  · rw [escapeOne_special hc] at h
    by_cases hd : isSpecial d = true
    · rw [escapeOne_special hd] at h
      obtain ⟨-, h⟩ := List.cons_prefix_cons.mp h
      exact List.cons_prefix_cons.mp h
    · rw [escapeOne_plain hd] at h
      obtain ⟨he, -⟩ := List.cons_prefix_cons.mp h
      exact absurd (he ▸ isSpecial_backslash) hd
  · rw [escapeOne_plain hc] at h
    by_cases hd : isSpecial d = true
    · rw [escapeOne_special hd] at h
      obtain ⟨he, -⟩ := List.cons_prefix_cons.mp h
      exact absurd (he ▸ isSpecial_backslash) hc
    · rw [escapeOne_plain hd] at h
      exact List.cons_prefix_cons.mp h

/-- Quoting keeps what is a beginning of what. -/
theorem quote_prefix_iff (s t : Text) : quote s <+: quote t ↔ s <+: t := by
  induction s generalizing t with
  | nil => exact iff_of_true List.nil_prefix List.nil_prefix
  | cons c s ih =>
    cases t with
    | nil =>
      refine iff_of_false (fun h => ?_) (by simp)
      exact quote_ne_nil (List.cons_ne_nil c s) (List.prefix_nil.mp h)
    | cons d t =>
      rw [quote_cons, quote_cons, List.cons_prefix_cons]
      constructor
      · intro h
        obtain ⟨hcd, h⟩ := escapeOne_prefix h
        exact ⟨hcd, (ih t).mp h⟩
      · rintro ⟨rfl, h⟩
        exact List.prefix_append_right_inj _ |>.mpr ((ih t).mpr h)

/-- A quoted text that occurs from the second half of a unit on occurs from the beginning of the
unit on. -/
theorem prefix_of_misaligned {s t : Text} {c : CodePoint} (hc : isSpecial c = true)
    (h : quote s <+: c :: quote t) : s <+: c :: t := by
  induction s generalizing c t with
  | nil => exact List.nil_prefix
  | cons d s ih =>
    rw [quote_cons] at h
    by_cases hd : isSpecial d = true
    · -- the unit of `d` is cut: its backslash is `c`, and `d` begins the next unit
      rw [escapeOne_special hd, List.cons_append, List.cons_prefix_cons] at h
      obtain ⟨rfl, h⟩ := h
      cases t with
      | nil => exact absurd (List.prefix_nil.mp h) (by simp)
      | cons e t =>
        rw [quote_cons] at h
        by_cases he : isSpecial e = true
        · rw [escapeOne_special he] at h
          obtain ⟨rfl, hs⟩ := List.cons_prefix_cons.mp h
          exact List.cons_prefix_cons.mpr ⟨rfl, ih he hs⟩
        · rw [escapeOne_plain he] at h
          obtain ⟨hde, -⟩ := List.cons_prefix_cons.mp h
          exact absurd (hde ▸ hd) he
    · rw [escapeOne_plain hd] at h
      obtain ⟨hdc, -⟩ := List.cons_prefix_cons.mp h
      exact absurd (hdc ▸ hc) hd

end LineSift.Regex
