import LineSift.Text.Basic

/-!
# Numbers of code points

Code points are numbered below `0x110000`, and every number there is that of one (`ofNat?_eq_none`).
Up to five hexadecimal digits name nothing else, but eight of them can (`digitsValue_lt`).
-/

namespace LineSift

namespace CodePoint

/-- The numbers that are not those of code points. -/
theorem ofNat?_eq_none {n : Nat} : ofNat? n = none ↔ 0x110000 ≤ n := by
  rw [ofNat?]
  by_cases hvalid : n.isValidChar
  · rw [dif_pos hvalid]
    rw [Nat.isValidChar] at hvalid
    constructor
    · intro h
      cases h
    · intro h
      omega
  rw [dif_neg hvalid]
  rw [Nat.isValidChar] at hvalid
  split
  · constructor
    · intro h
      cases h
    · intro h
      omega
  · constructor
    · intro _
      omega
    · intro _
      rfl

theorem digitValue_lt (c : CodePoint) : c.digitValue < 16 := by
  unfold digitValue
  dsimp only
  split
  · omega
  split
  · omega
  split <;> omega

end CodePoint

namespace Text

theorem foldl_digits_lt (t : Text) (n : Nat) :
    t.foldl (fun n c => 16 * n + c.digitValue) n < (n + 1) * Nat.pow 16 t.length := by
  induction t generalizing n with
  | nil =>
    rw [List.length_nil, Nat.pow_eq, Nat.pow_zero, Nat.mul_one]
    exact Nat.lt_succ_self n
  | cons c t ih =>
    have hc : 16 * n + c.digitValue + 1 ≤ (n + 1) * 16 := by
      have := c.digitValue_lt
      omega
    calc (c :: t).foldl (fun n c => 16 * n + c.digitValue) n
        < (16 * n + c.digitValue + 1) * Nat.pow 16 t.length := ih _
      _ ≤ (n + 1) * 16 * Nat.pow 16 t.length := Nat.mul_le_mul_right _ hc
      _ = (n + 1) * Nat.pow 16 (c :: t).length := by
        rw [List.length_cons, Nat.pow_eq, Nat.pow_eq, Nat.pow_succ, Nat.mul_assoc,
          Nat.mul_comm 16]

/-- A hexadecimal numeral is bounded by the number of its digits. -/
theorem digitsValue_lt (t : Text) : digitsValue 16 t < Nat.pow 16 t.length := by
  have h := foldl_digits_lt t 0
  rwa [Nat.zero_add, Nat.one_mul] at h

/-- Up to five hexadecimal digits name a code point. -/
theorem digitsValue_short {t : Text} (h : t.length ≤ 5) : digitsValue 16 t < 0x110000 := by
  have hpow : Nat.pow 16 t.length ≤ Nat.pow 16 5 := Nat.pow_le_pow_right (by decide) h
  exact Nat.lt_of_lt_of_le (digitsValue_lt t) (Nat.le_trans hpow (by decide))

end Text

end LineSift
