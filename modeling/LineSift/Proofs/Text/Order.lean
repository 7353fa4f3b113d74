import LineSift.Text.Basic
import Mathlib.Data.List.Sort

/-!
# The order of texts

Texts are ordered by their first difference, and code points by their numbers, which tell them apart
(`CodePoint.toNat_inj`).  So any two texts can be put in order, and in one way only
(`Text.le_total`, `Text.le_antisymm`).  Putting a list in order loses no text and keeps none twice,
and a list in order is told by the texts in it (`Text.eq_of_sorted`).
-/

namespace LineSift

/-- Code points with the same number are the same. -/
theorem CodePoint.toNat_inj {a b : CodePoint} (h : a.toNat = b.toNat) : a = b := by
  -- the number of a character is not that of a surrogate
  have hapart (c : Char) (n : Fin 2048) : c.toNat ≠ 0xD800 + n.val := by
    have hvalid : c.toNat < 0xD800 ∨ 0xDFFF < c.toNat ∧ c.toNat < 0x110000 := c.valid
    omega
  cases a with
  | char c =>
    cases b with
    | char d => rw [Char.toNat_inj.mp h]
    | lone n => exact absurd h (hapart c n)
  | lone n =>
    cases b with
    | char d => exact absurd h.symm (hapart d n)
    | lone m => rw [Fin.ext (Nat.add_left_cancel h)]

namespace Text

theorem le_cons {a b : CodePoint} {s t : Text} :
    le (a :: s) (b :: t) = true ↔ a.toNat < b.toNat ∨ a = b ∧ le s t = true := by
  simp [le]

/-- Of two texts one comes before the other, or they are the same. -/
theorem le_total (s t : Text) : (le s t || le t s) = true := by
  rw [Bool.or_eq_true]
  induction s generalizing t with
  | nil => exact Or.inl rfl
  | cons a s ih =>
    cases t with
    | nil => exact Or.inr rfl
    | cons b t =>
      rw [le_cons, le_cons]
      rcases Nat.lt_trichotomy a.toNat b.toNat with hlt | heq | hgt
      · exact Or.inl (Or.inl hlt)
      · obtain rfl := CodePoint.toNat_inj heq
        exact (ih t).imp (fun h => Or.inr ⟨rfl, h⟩) fun h => Or.inr ⟨rfl, h⟩
      · exact Or.inr (Or.inl hgt)

theorem le_trans {s t u : Text} (hst : le s t = true) (htu : le t u = true) : le s u = true := by
  induction s generalizing t u with
  | nil => rfl
  | cons a s ih =>
    cases t with
    | nil => cases hst
    | cons b t =>
      cases u with
      | nil => cases htu
      | cons c u =>
        rw [le_cons] at hst htu ⊢
        rcases hst with hab | ⟨rfl, hst⟩ <;> rcases htu with hbc | ⟨rfl, htu⟩
        · exact Or.inl (Nat.lt_trans hab hbc)
        · exact Or.inl hab
        · exact Or.inl hbc
        · exact Or.inr ⟨rfl, ih hst htu⟩

theorem le_antisymm {s t : Text} (hst : le s t = true) (hts : le t s = true) : s = t := by
  induction s generalizing t with
  | nil =>
    cases t with
    | nil => rfl
    | cons b t => cases hts
  | cons a s ih =>
    cases t with
    | nil => cases hst
    | cons b t =>
      rw [le_cons] at hst hts
      rcases hst with hab | ⟨rfl, hst⟩ <;> rcases hts with hba | ⟨he, hts⟩
      · omega
      · rw [he] at hab
        exact absurd hab (Nat.lt_irrefl _)
      · exact absurd hba (Nat.lt_irrefl _)
      · rw [ih hst hts]

/-! ## Lists of texts in order -/

/-- Whether a text comes before another one. -/
def Before (s t : Text) : Prop := le s t = true ∧ s ≠ t

theorem Before.of_le_of_ne {s t : Text} (h : ¬ le s t = true) (hne : s ≠ t) : Before t s := by
  have htotal := le_total s t
  rw [Bool.or_eq_true] at htotal
  exact ⟨htotal.resolve_left h, hne.symm⟩

theorem mem_insertOnce {s t : Text} {ts : List Text} : s ∈ insertOnce t ts ↔ s = t ∨ s ∈ ts := by
  induction ts with
  | nil => simp [insertOnce]
  | cons u ts ih =>
    rw [insertOnce]
    split
    · next he => simp [he]
    · split
      · simp
      · rw [List.mem_cons, ih, List.mem_cons]
        exact or_left_comm

/-- A text that is inserted goes between those before it and those behind it. -/
theorem insertOnce_sorted (t : Text) {ts : List Text} (h : ts.Pairwise Before) :
    (insertOnce t ts).Pairwise Before := by
  induction ts with
  | nil => exact List.pairwise_singleton _ _
  | cons u ts ih =>
    obtain ⟨hu, hts⟩ := List.pairwise_cons.mp h
    rw [insertOnce]
    split
    · exact h
    · next hne =>
      split
      · next hle =>
        refine List.pairwise_cons.mpr ⟨fun v hv => ?_, h⟩
        rcases List.mem_cons.mp hv with rfl | hv
        · exact ⟨hle, hne⟩
        · refine ⟨le_trans hle (hu v hv).1, ?_⟩
          rintro rfl
          exact hne (le_antisymm hle (hu t hv).1)
      · next hle =>
        refine List.pairwise_cons.mpr ⟨fun v hv => ?_, ih hts⟩
        rcases mem_insertOnce.mp hv with rfl | hv
        · exact .of_le_of_ne hle hne
        · exact hu v hv

@[simp] theorem mem_inOrder {s : Text} {ts : List Text} : s ∈ inOrder ts ↔ s ∈ ts := by
  induction ts with
  | nil => exact Iff.rfl
  | cons t ts ih =>
    have hrest : s ∈ ts.foldr insertOnce [] ↔ s ∈ ts := ih
    rw [inOrder, List.foldr_cons, mem_insertOnce, hrest, List.mem_cons]

theorem inOrder_sorted (ts : List Text) : (inOrder ts).Pairwise Before := by
  induction ts with
  | nil => exact .nil
  | cons t ts ih => exact insertOnce_sorted t ih

/-- Lists in order with the same texts in them are the same. -/
theorem eq_of_sorted {ts us : List Text} (ht : ts.Pairwise Before) (hu : us.Pairwise Before)
    (hsame : ∀ s, s ∈ ts ↔ s ∈ us) : ts = us := by
  have hperm : ts.Perm us :=
    (List.perm_ext_iff_of_nodup (ht.imp And.right) (hu.imp And.right)).mpr hsame
  exact hperm.eq_of_pairwise (fun _ _ _ _ h h' => le_antisymm h.1 h'.1) ht hu

end Text

end LineSift
