import LineSift.Text.Number

/-!
# Decimal numerals

A decimal numeral consists of digits that have the value of the number (`digitsValue_decimal`), does
not begin with a zero unless it is one (`decimal_head`), and is no longer than that of a greater
number (`length_decimal_mono`).
-/

namespace LineSift.Text

/-- A numeral is that of the tens with the last digit behind it. -/
theorem decimal_eq (n : Nat) :
    decimal n = if n < 10 then [digit n] else decimal (n / 10) ++ [digit (n % 10)] := by
  unfold decimal
  rw [numeral]
  by_cases h : n < 10
  · rw [dif_pos (Or.inl h), if_pos h]
  · have h' : ¬ (n < 10 ∨ 10 < 2) := by omega
    rw [dif_neg h', if_neg h]

/-- Numbers are reached from digits by putting one more digit behind them. -/
theorem decimalInduction {motive : Nat → Prop} (hdigit : ∀ n, n < 10 → motive n)
    (hstep : ∀ n, 10 ≤ n → motive (n / 10) → motive n) (n : Nat) : motive n := by
  induction n using Nat.strongRecOn with
  | ind n ih =>
    by_cases h : n < 10
    · exact hdigit n h
    · exact hstep n (by omega) (ih (n / 10) (by omega))

theorem digit_facts : ∀ n < 10,
    (digit n).isAsciiDigit = true ∧ (digit n).digitValue = n ∧
      (digit n = .char '0' → n = 0) := by
  decide

theorem digitsValue_concat (t : Text) (c : CodePoint) :
    digitsValue 10 (t ++ [c]) = 10 * digitsValue 10 t + c.digitValue := by
  simp [digitsValue, List.foldl_append]

/-- **A number is read back** from its numeral. -/
theorem digitsValue_decimal (n : Nat) : digitsValue 10 (decimal n) = n := by
  induction n using decimalInduction with
  | hdigit n h =>
    rw [decimal_eq, if_pos h]
    simp [digitsValue, (digit_facts n h).2.1]
  | hstep n h ih =>
    have hlast : (digit (n % 10)).digitValue = n % 10 := (digit_facts _ (by omega)).2.1
    rw [decimal_eq, if_neg (by omega), digitsValue_concat, ih, hlast]
    omega

/-- A numeral has nothing but digits in it. -/
theorem isAsciiDigit_of_mem_decimal {n : Nat} {c : CodePoint} (h : c ∈ decimal n) :
    c.isAsciiDigit = true := by
  induction n using decimalInduction with
  | hdigit n hn =>
    rw [decimal_eq, if_pos hn] at h
    rw [List.mem_singleton.mp h]
    exact (digit_facts n hn).1
  | hstep n hn ih =>
    rw [decimal_eq, if_neg (by omega)] at h
    rcases List.mem_append.mp h with h | h
    · exact ih h
    · rw [List.mem_singleton.mp h]
      exact (digit_facts _ (by omega)).1

theorem decimal_ne_nil (n : Nat) : decimal n ≠ [] := by
  rw [decimal_eq]
  split <;> simp

/-- A numeral begins with a digit, and so with nothing else. -/
theorem decimal_cons (n : Nat) :
    ∃ d t, decimal n = d :: t ∧ ∀ c : Char, (CodePoint.char c).isAsciiDigit = false →
      d ≠ .char c := by
  obtain ⟨d, t, hd⟩ := List.exists_cons_of_ne_nil (decimal_ne_nil n)
  have hdigit : d.isAsciiDigit = true :=
    isAsciiDigit_of_mem_decimal (n := n) (by rw [hd]; exact List.mem_cons_self)
  refine ⟨d, t, hd, fun c hc he => ?_⟩
  rw [he, hc] at hdigit
  cases hdigit

/-- Only zero has a numeral that begins with a zero, and it is nothing else. -/
theorem decimal_head {n : Nat} {t : Text} (h : decimal n = .char '0' :: t) : t = [] := by
  have hzero : ∀ m, ∀ u, decimal m = .char '0' :: u → m = 0 := by
    intro m
    induction m using decimalInduction with
    | hdigit m hm =>
      intro u hu
      rw [decimal_eq, if_pos hm] at hu
      exact (digit_facts m hm).2.2 (List.cons.inj hu).1
    | hstep m hm ih =>
      intro u hu
      rw [decimal_eq, if_neg (by omega)] at hu
      obtain ⟨c, v, hv⟩ := List.exists_cons_of_ne_nil (decimal_ne_nil (m / 10))
      rw [hv] at hu
      have hc : c = .char '0' := (List.cons.inj hu).1
      have := ih v (hc ▸ hv)
      omega
  have hn := hzero n t h
  rw [hn, decimal_eq] at h
  exact (List.cons.inj h).2.symm

/-- A smaller number has no longer numeral. -/
theorem length_decimal_mono {m n : Nat} (h : m ≤ n) :
    (decimal m).length ≤ (decimal n).length := by
  induction n using decimalInduction generalizing m with
  | hdigit n hn =>
    have hm : m < 10 := Nat.lt_of_le_of_lt h hn
    rw [decimal_eq m, decimal_eq n, if_pos hm, if_pos hn]
    exact Nat.le_refl _
  | hstep n hn ih =>
    have hlast : (decimal n).length = (decimal (n / 10)).length + 1 := by
      rw [decimal_eq n, if_neg (by omega), List.length_append, List.length_singleton]
    rw [hlast, decimal_eq m]
    by_cases hm : m < 10
    · rw [if_pos hm, List.length_singleton]
      exact Nat.le_add_left 1 _
    · have hdiv : m / 10 ≤ n / 10 := Nat.div_le_div_right h
      rw [if_neg hm, List.length_append, List.length_singleton]
      exact Nat.add_le_add_right (ih hdiv) 1

end LineSift.Text
