import LineSift.Proofs.Text.Escape
import LineSift.Proofs.Traversal
import LineSift.Value.List

/-!
# Values with escapes out of range

A value that cannot be unquoted is malformed, or it is in double quotes and has an escape of eight
hexadecimal digits that are the number of no code point (`unquote_error`).  The shorter escapes
cannot be wrong in this way, since their digits are too few (`escapeText_cons`).
-/

namespace LineSift.Value

/-- A value in double quotes has an escape with the number of no code point. -/
def NamesNoCodePoint (s : Text) : Prop :=
  s.head? = some (.char '"') ∧ ∃ digits, .escape (.char 'U' :: digits) ∈ bodyUnits s.tail.dropLast ∧
    digits.length = 8 ∧ (∀ d ∈ digits, d.isHexDigit = true) ∧ 0x110000 ≤ Text.digitsValue 16 digits

theorem beginsWith_take {p : CodePoint → Bool} {n : Nat} {t : Text} (h : beginsWith p n t = true) :
    (t.take n).length = n ∧ ∀ d ∈ t.take n, p d = true := by
  obtain ⟨hle, hall⟩ := Bool.and_eq_true_iff.mp h
  exact ⟨List.length_take_of_le (of_decide_eq_true hle), List.all_eq_true.mp hall⟩

/-- An escape has up to four digits behind its first code point, unless that is an upper-case U. -/
theorem escapeText_cons {t digits : Text} {c : CodePoint} (h : escapeText t = c :: digits) :
    digits.length ≤ 5 ∨
      c = .char 'U' ∧ digits.length = 8 ∧ ∀ d ∈ digits, d.isHexDigit = true := by
  unfold escapeText at h
  split at h
  · cases h
  split at h
  · next hx =>
    obtain ⟨-, rfl⟩ := List.cons.inj h
    rw [(beginsWith_take hx.2).1]
    exact Or.inl (by decide)
  split at h
  · next hu =>
    obtain ⟨-, rfl⟩ := List.cons.inj h
    rw [(beginsWith_take hu.2).1]
    exact Or.inl (by decide)
  split at h
  · next hU =>
    obtain ⟨rfl, rfl⟩ := List.cons.inj h
    exact Or.inr ⟨hU.1, beginsWith_take hU.2⟩
  split at h
  · have hlength := congrArg List.length h
    simp only [List.length_take, List.length_cons] at hlength
    exact Or.inl (by omega)
  · obtain ⟨-, rfl⟩ := List.cons.inj h
    exact Or.inl (Nat.zero_le _)

/-- Every escape of a body has been taken from some text behind a backslash. -/
theorem exists_escapeText {t esc : Text} (h : .escape esc ∈ bodyUnits t) :
    ∃ u, escapeText u = esc := by
  fun_induction bodyUnits t with
  | case1 => cases h
  | case2 r ih =>
    rcases List.mem_cons.mp h with h | h
    · exact ⟨r, (BodyUnit.escape.inj h).symm⟩
    · exact ih h
  | case3 c r _ ih =>
    rcases List.mem_cons.mp h with h | h
    · cases h
    · exact ih h

theorem hexCodePoint_error {digits : Text} {e : Error} (h : hexCodePoint digits = .error e) :
    0x110000 ≤ Text.digitsValue 16 digits := by
  unfold hexCodePoint at h
  dsimp only at h
  split at h
  · cases h
  · next hnone => exact CodePoint.ofNat?_eq_none.mp hnone

theorem bodyUnit_error {s : Text} {u : BodyUnit} {e : Error} (h : u.value s = .error e) :
    e.kind = .parsing ∨ ∃ c digits, u = .escape (c :: digits) ∧
      0x110000 ≤ Text.digitsValue 16 digits := by
  unfold BodyUnit.value at h
  split at h
  · cases h
  · split at h
    · cases h
    · cases h
      exact Or.inl rfl
  · split at h
    · cases h
      exact Or.inl rfl
    · dsimp only at h
      split at h
      · split at h
        · cases h
        · cases h
          exact Or.inl rfl
      · exact Or.inr ⟨_, _, rfl, hexCodePoint_error h⟩

theorem unquoteDouble_error {s : Text} {e : Error} (hs : s.head? = some (.char '"'))
    (h : unquoteDouble s = .error e) : e.kind = .parsing ∨ NamesNoCodePoint s := by
  unfold unquoteDouble at h
  split at h
  · cases h
    exact Or.inl rfl
  dsimp only at h
  split at h
  · cases h
    exact Or.inl rfl
  split at h
  · cases h
    exact Or.inl rfl
  obtain ⟨u, hu, he⟩ := exists_of_mapM_error h
  rcases bodyUnit_error he with hkind | ⟨c, digits, rfl, hvalue⟩
  · exact Or.inl hkind
  obtain ⟨r, hr⟩ := exists_escapeText hu
  rcases escapeText_cons hr with hshort | ⟨rfl, hlength, hdigits⟩
  · have := Text.digitsValue_short hshort
    omega
  · exact Or.inr ⟨hs, digits, hu, hlength, hdigits, hvalue⟩

/-- **A value that cannot be unquoted** is malformed, or it has an escape out of range. -/
theorem unquote_error {s : Text} {e : Error} (h : unquote s = .error e) :
    e.kind = .parsing ∨ NamesNoCodePoint s := by
  unfold unquote at h
  split at h
  · cases h
  · cases h
    exact Or.inl rfl
  split at h
  · next head rest _ hhead =>
    exact unquoteDouble_error (congrArg some hhead) h
  split at h
  · split at h
    · cases h
    · cases h
      exact Or.inl rfl
  split at h
  · split at h
    · cases h
    · cases h
      exact Or.inl rfl
  · cases h

/-- A list that cannot be unquoted is malformed, or one of its elements has an escape out
of range. -/
theorem unquoteList_error {v : Text} {e : Error} (h : unquoteList v = .error e) :
    e.kind = .parsing ∨ ∃ s ∈ elements v.strip.tail.dropLast, NamesNoCodePoint s := by
  unfold unquoteList at h
  dsimp only at h
  split at h
  · cases h
    exact Or.inl rfl
  split at h
  · cases h
    exact Or.inl rfl
  split at h
  · cases h
  obtain ⟨s, hs, he⟩ := exists_of_mapM_error h
  split at he
  · cases he
    exact Or.inl rfl
  · exact (unquote_error he).imp_right fun hnone => ⟨s, hs, hnone⟩

end LineSift.Value
