import LineSift.Text.Letter
import LineSift.Text.Space
import Mathlib.Data.List.TakeWhile

/-!
# White space at the ends of a text

What is left of a text without the white space around it: the whole text, if it begins and ends with
something else, and at any rate every code point that is no white space.  What is left has no white
space around it any more (`strip_strip`), and white space around a text makes no difference to it
(`strip_around`).
-/

namespace LineSift

/-- Ranges of white space. -/
def spaceRanges : List (Nat × Nat) :=
  [(0x09, 0x0D), (0x1C, 0x20), (0x85, 0x85), (0xA0, 0xA0), (0x1680, 0x1680), (0x2000, 0x200A),
    (0x2028, 0x2029), (0x202F, 0x202F), (0x205F, 0x205F), (0x3000, 0x3000)]

/-- White space is what lies in one of the ranges. -/
theorem CodePoint.isSpace_eq (c : CodePoint) :
    c.isSpace = spaceRanges.any fun s => c.inRange s.1 s.2 := by
  rw [Bool.eq_iff_iff]
  simp only [isSpace, spaceRanges, List.any_cons, List.any_nil, inRange, Bool.or_eq_true,
    Bool.and_eq_true, decide_eq_true_eq, beq_iff_eq, Bool.false_eq_true, or_false]
  omega

/-- A letter or a number is no white space. -/
theorem CodePoint.isSpace_of_isAlnum {c : CodePoint} (h : c.isAlnum) : c.isSpace = false := by
  have hapart : (letterRanges.all fun r => spaceRanges.all fun s => r.2.blt s.1 || s.2.blt r.1) =
      true := by decide +kernel
  rw [Bool.eq_false_iff]
  intro hspace
  rw [isAlnum] at h
  split at h
  · simp only [isSpace, isAsciiAlnum, isAsciiDigit, inRange, Bool.or_eq_true, Bool.and_eq_true,
      decide_eq_true_eq, beq_iff_eq] at h hspace
    omega
  · obtain ⟨r, hr, hletter⟩ := List.any_eq_true.mp h
    rw [isSpace_eq] at hspace
    obtain ⟨s, hs, hspace⟩ := List.any_eq_true.mp hspace
    have hout := List.all_eq_true.mp (List.all_eq_true.mp hapart r hr) s hs
    simp only [inRange, Bool.and_eq_true, decide_eq_true_eq] at hletter hspace
    simp only [Bool.or_eq_true, Nat.blt_eq] at hout
    omega

/-- What can stand between tokens is white space. -/
theorem CodePoint.isSpace_of_isLayout {c : CodePoint} (h : c.isLayout) : c.isSpace := by
  rcases isLayout_iff.mp h with rfl | rfl | rfl | rfl <;> decide

namespace Text

variable {t : Text} {c : CodePoint}

theorem stripLeft_cons (h : c.isSpace = false) (t : Text) : stripLeft (c :: t) = c :: t :=
  List.dropWhile_cons_of_neg (by simp [h])

theorem stripLeft_of_head? (h : ∀ c ∈ t.head?, c.isSpace = false) : stripLeft t = t := by
  cases t with
  | nil => rfl
  | cons c t => exact stripLeft_cons (h c rfl) t

/-- A text that begins and ends with something else is left as it is. -/
theorem strip_of_ends (hhead : ∀ c ∈ t.head?, c.isSpace = false)
    (hlast : ∀ c ∈ t.getLast?, c.isSpace = false) : strip t = t := by
  rw [strip, stripLeft_of_head? hhead, stripRight,
    stripLeft_of_head? (by rwa [List.head?_reverse]), List.reverse_reverse]

theorem strip_enclosed {o e : CodePoint} (ho : o.isSpace = false)
    (he : e.isSpace = false) (b : Text) :
    strip (o :: (b ++ [e])) = o :: (b ++ [e]) := by
  refine strip_of_ends (fun c hc => ?_) (fun c hc => ?_)
  · obtain rfl : o = c := by simpa using hc
    exact ho
  · obtain rfl : e = c := by simpa [List.getLast?_cons, List.getLast?_append] using hc
    exact he

theorem mem_stripLeft (hc : c ∈ t) (h : c.isSpace = false) : c ∈ stripLeft t := by
  induction t with
  | nil => exact absurd hc List.not_mem_nil
  | cons d t ih =>
    by_cases hd : d.isSpace
    · rw [stripLeft, List.dropWhile_cons_of_pos hd]
      refine ih ((List.mem_cons.mp hc).resolve_left fun hcd => ?_)
      simp [hcd, hd] at h
    · rwa [stripLeft_cons (by simpa using hd)]

/-- What is no white space is left. -/
theorem mem_strip (hc : c ∈ t) (h : c.isSpace = false) : c ∈ strip t := by
  rw [strip, stripRight, List.mem_reverse]
  exact mem_stripLeft (List.mem_reverse.mpr (mem_stripLeft hc h)) h

theorem isSpace_of_mem_head?_stripLeft (h : c ∈ (stripLeft t).head?) : c.isSpace = false := by
  have hhead := List.head?_dropWhile_not CodePoint.isSpace t
  rw [stripLeft, Option.mem_def] at h
  rw [h] at hhead
  exact hhead

theorem isSpace_of_mem_getLast?_stripRight (h : c ∈ (stripRight t).getLast?) :
    c.isSpace = false := by
  rw [stripRight, List.getLast?_reverse] at h
  exact isSpace_of_mem_head?_stripLeft h

/-- What is left has no white space around it. -/
theorem strip_strip (t : Text) : strip (strip t) = strip t := by
  refine strip_of_ends (fun c hc => ?_) (fun c hc => ?_)
  · -- what is left begins as the text does without the white space in front
    have hprefix : strip t <+: stripLeft t := by
      rw [strip, stripRight, ← List.reverse_suffix, List.reverse_reverse]
      exact List.dropWhile_suffix _
    obtain ⟨rest, hrest⟩ := hprefix
    refine isSpace_of_mem_head?_stripLeft (t := t) ?_
    rw [← hrest, List.head?_append, Option.mem_def.mp hc]
    rfl
  · exact isSpace_of_mem_getLast?_stripRight hc

theorem stripRight_stripRight (t : Text) : stripRight (stripRight t) = stripRight t := by
  have hhead : ∀ c ∈ (stripRight t).reverse.head?, c.isSpace = false := fun c hc =>
    isSpace_of_mem_getLast?_stripRight (t := t) (by rwa [List.head?_reverse] at hc)
  rw [stripRight, stripLeft_of_head? hhead, List.reverse_reverse]

/-- A text with no white space around it has none at either end. -/
theorem ends_of_strip (h : strip t = t) : stripLeft t = t ∧ stripRight t = t := by
  have hlength (u : Text) : (stripLeft u).length ≤ u.length := (List.dropWhile_sublist _).length_le
  have hright (u : Text) : (stripRight u).length ≤ u.length := by
    rw [stripRight, List.length_reverse]
    exact (hlength _).trans_eq List.length_reverse
  have hleft : stripLeft t = t := by
    refine (List.dropWhile_suffix _).eq_of_length (Nat.le_antisymm (hlength t) ?_)
    calc t.length = (strip t).length := by rw [h]
      _ ≤ (stripLeft t).length := hright _
  refine ⟨hleft, ?_⟩
  rwa [strip, hleft] at h

/-! ## Texts of white space alone -/

/-- A text of white space alone. -/
def White (g : Text) : Prop := ∀ c ∈ g, c.isSpace = true

/-- White space in front of a text makes no difference. -/
theorem stripLeft_white {g : Text} (h : White g) (t : Text) : stripLeft (g ++ t) = stripLeft t :=
  List.dropWhile_append_of_pos h

theorem stripRight_white {g : Text} (h : White g) (t : Text) :
    stripRight (t ++ g) = stripRight t := by
  have hreverse : White g.reverse := fun c hc => h c (List.mem_reverse.mp hc)
  rw [stripRight, List.reverse_append, stripLeft_white hreverse]
  rfl

/-- What is taken away at the end is white space. -/
theorem exists_stripRight (t : Text) : ∃ g, White g ∧ t = stripRight t ++ g := by
  refine ⟨(t.reverse.takeWhile CodePoint.isSpace).reverse,
    fun c hc => List.mem_takeWhile_imp (List.mem_reverse.mp hc), ?_⟩
  rw [stripRight, stripLeft, ← List.reverse_append, List.takeWhile_append_dropWhile,
    List.reverse_reverse]

theorem stripLeft_eq_nil : stripLeft t = [] ↔ White t := List.dropWhile_eq_nil_iff

theorem white_takeWhile (t : Text) : White (t.takeWhile CodePoint.isSpace) :=
  fun _ hc => List.mem_takeWhile_imp hc

/-- A text that begins and ends with something else is what is left when there is white space around
it. -/
theorem strip_around {before after : Text} (hbefore : White before) (hafter : White after)
    (hne : t ≠ []) (hhead : ∀ c ∈ t.head?, c.isSpace = false)
    (hlast : ∀ c ∈ t.getLast?, c.isSpace = false) : strip (before ++ (t ++ after)) = t := by
  have hleft : stripLeft (t ++ after) = t ++ after := by
    obtain ⟨c, u, rfl⟩ := List.exists_cons_of_ne_nil hne
    exact stripLeft_cons (hhead c rfl) _
  rw [strip, stripLeft_white hbefore, hleft, stripRight_white hafter]
  rw [stripRight, stripLeft_of_head? (by rwa [List.head?_reverse]), List.reverse_reverse]

end Text

end LineSift
