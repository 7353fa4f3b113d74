import LineSift.Json.Decode
import LineSift.Json.Encode
import LineSift.Proofs.Text.Numeral

/-!
# Reading a record back

A natural number is read back from its numeral, as long as it does not have too many digits and
nothing stands behind it that would go on with it (`value_decimal`).  So a record of two natural
numbers under different names is read back from its text (`decode_encode_pair`).
-/

namespace LineSift.Json

open Text (ofString decimal onto)

/-- A number that does not have more digits than can be read. -/
def IsShort (n : Nat) : Prop := (decimal n).length ≤ maxDigits

instance (n : Nat) : Decidable (IsShort n) :=
  inferInstanceAs (Decidable ((decimal n).length ≤ maxDigits))

theorem IsShort.mono {m n : Nat} (h : IsShort n) (hle : m ≤ n) : IsShort m :=
  Nat.le_trans (Text.length_decimal_mono hle) h

/-- What cannot go on with a numeral. -/
def EndsNumeral (rest : Text) : Prop :=
  ∃ c t, rest = c :: t ∧ c.isAsciiDigit = false ∧ c ≠ .char '.' ∧ c ≠ .char 'e' ∧ c ≠ .char 'E'

theorem wholePart_decimal (n : Nat) {rest : Text} (h : EndsNumeral rest) :
    wholePart (decimal n ++ rest) = (decimal n, rest) := by
  obtain ⟨c, t, rfl, hc, -⟩ := h
  obtain ⟨d, u, hd⟩ := List.exists_cons_of_ne_nil (Text.decimal_ne_nil n)
  rw [hd, List.cons_append, wholePart]
  by_cases hzero : d = .char '0'
  · rw [if_pos hzero]
    rw [hzero] at hd
    rw [Text.decimal_head hd, hzero]
    rfl
  · have hall : ∀ e ∈ d :: u, e.isAsciiDigit = true := by
      rw [← hd]
      exact fun e => Text.isAsciiDigit_of_mem_decimal
    have hstop : ¬ c.isAsciiDigit = true := by
      simp [hc]
    rw [if_neg hzero, ← List.cons_append, List.takeWhile_append_of_pos hall,
      List.dropWhile_append_of_pos hall, List.takeWhile_cons_of_neg hstop,
      List.dropWhile_cons_of_neg hstop, List.append_nil]

theorem unsigned_decimal {n : Nat} (hn : IsShort n) (start : Text) {rest : Text}
    (h : EndsNumeral rest) :
    unsigned false start (decimal n ++ rest) = .ok (.int n, rest) := by
  have hdigits : ¬ maxDigits < (decimal n).length := Nat.not_lt.mpr hn
  have hvalue := Text.digitsValue_decimal n
  obtain ⟨d, u, hd⟩ := List.exists_cons_of_ne_nil (Text.decimal_ne_nil n)
  have hwhole := wholePart_decimal n h
  obtain ⟨c, t, rfl, -, hpoint, he, hE⟩ := h
  have hfraction : fraction (c :: t) = ([], c :: t) := by
    unfold fraction
    split
    · next heq =>
      exact absurd (List.cons.inj heq).1 hpoint
    · rfl
  have hexponent : exponent? (c :: t) = none := by
    unfold exponent?
    simp [he, hE]
  unfold unsigned
  rw [hwhole]
  rw [hd] at hdigits hvalue ⊢
  simp only [hfraction, hexponent, List.append_nil, ne_eq, not_true_eq_false, if_false, hdigits,
    hvalue, Bool.false_eq_true]

/-- A numeral is no word and no string, array or object. -/
theorem value_decimal {n : Nat} (hn : IsShort n) (fuel : Nat) {rest : Text}
    (h : EndsNumeral rest) : value (fuel + 1) (decimal n ++ rest) = .ok (.int n, rest) := by
  have hread := unsigned_decimal hn (decimal n ++ rest) h
  obtain ⟨d, u, hd, hother⟩ := Text.decimal_cons n
  rw [hd, List.cons_append] at hread ⊢
  have hwords : ∀ w ∈ words, ¬ w.1.isPrefixOf (d :: (u ++ rest)) = true := by
    have hheads : ∀ w ∈ words, ∃ c t, w.1 = .char c :: t ∧
        (CodePoint.char c).isAsciiDigit = false := by
      simp only [words, List.mem_cons, List.not_mem_nil, or_false]
      rintro w (rfl | rfl | rfl | rfl | rfl | rfl) <;> exact ⟨_, _, rfl, rfl⟩
    intro w hw
    obtain ⟨c, t, he, hc⟩ := hheads w hw
    simp [he, (hother c hc).symm]
  unfold value
  split
  · next heq =>
    exact absurd (List.cons.inj heq).1 (hother _ rfl)
  · next heq =>
    exact absurd (List.cons.inj heq).1 (hother _ rfl)
  · next heq =>
    exact absurd (List.cons.inj heq).1 (hother _ rfl)
  · have hscalar : scalar (d :: (u ++ rest)) =
        unsigned false (d :: (u ++ rest)) (d :: (u ++ rest)) := by
      unfold scalar
      rw [List.find?_eq_none.mpr hwords]
      dsimp only
      split
      · next heq =>
        exact absurd (List.cons.inj heq).1 (hother _ rfl)
      · rfl
    rw [hscalar]
    exact hread

/-! ## Names -/

/-- A code point that stands for itself in a string. -/
def IsPlain (c : CodePoint) : Prop :=
  c ≠ .char '"' ∧ c ≠ .char '\\' ∧ 0x20 ≤ c.toNat ∧ c.toNat < 0x7F

instance (c : CodePoint) : Decidable (IsPlain c) :=
  inferInstanceAs (Decidable (c ≠ .char '"' ∧ c ≠ .char '\\' ∧ 0x20 ≤ c.toNat ∧ c.toNat < 0x7F))

theorem encodeCodePoint_plain {c : CodePoint} (h : IsPlain c) : encodeCodePoint c = [c] := by
  obtain ⟨hquote, hback, hlo, hhi⟩ := h
  have hne {d : Char} (hd : d.toNat < 0x20) : c ≠ .char d := by
    intro he
    rw [he] at hlo
    exact absurd hd (Nat.not_lt.mpr hlo)
  unfold encodeCodePoint
  rw [if_neg (by simp [hquote, hback]), if_neg (hne (by decide)), if_neg (hne (by decide)),
    if_neg (hne (by decide)), if_neg (hne (by decide)), if_neg (hne (by decide))]
  simp [hlo, hhi]

theorem encodeString_plain {name : Text} (h : ∀ c ∈ name, IsPlain c) :
    encodeString name = .char '"' :: (name ++ [.char '"']) := by
  have hflat : name.flatMap encodeCodePoint = name := by
    induction name with
    | nil => rfl
    | cons c t ih =>
      rw [List.flatMap_cons, encodeCodePoint_plain (h c List.mem_cons_self),
        ih fun d hd => h d (List.mem_cons_of_mem _ hd)]
      rfl
  rw [encodeString, hflat]
  rfl

theorem parts_plain (start : Text) {name : Text} (h : ∀ c ∈ name, IsPlain c) (rest : Text) :
    parts start (name ++ .char '"' :: rest) = .ok (name.map .plain, rest) := by
  induction name with
  | nil => cases rest <;> simp [parts]
  | cons c t ih =>
    obtain ⟨hquote, hback, hlo, -⟩ := h c List.mem_cons_self
    have ih := ih fun d hd => h d (List.mem_cons_of_mem _ hd)
    have htail : ∃ d u, t ++ .char '"' :: rest = d :: u := by
      cases t <;> exact ⟨_, _, rfl⟩
    obtain ⟨d, u, hu⟩ := htail
    rw [hu] at ih
    have hstep : parts start (c :: d :: u) = onto (.plain c) (parts start (d :: u)) := by
      conv => lhs; unfold parts
      split
      · next heq => cases heq
      · next heq => cases heq
      · next heq => exact absurd (List.cons.inj heq).1 hback
      · next heq =>
        cases heq
        simp [hquote, hback, Nat.not_lt.mpr hlo]
    rw [List.cons_append, hu, hstep, ih]
    rfl

theorem joinParts_plain (name : Text) : joinParts (name.map .plain) = name := by
  induction name with
  | nil => rfl
  | cons c t ih =>
    rw [List.map_cons, joinParts, ih]

theorem readString_plain {name : Text} (h : ∀ c ∈ name, IsPlain c) (rest : Text) :
    readString (name ++ .char '"' :: rest) = .ok (name, rest) := by
  rw [readString, parts_plain _ h]
  simp [Except.map, joinParts_plain]

/-! ## Members -/

theorem skip_cons {c : CodePoint} (h : c.isLayout = false) (t : Text) : skip (c :: t) = c :: t := by
  rw [skip, List.dropWhile_cons_of_neg (by simp [h])]

theorem skip_space (t : Text) : skip (.char ' ' :: t) = skip t := rfl

theorem skip_decimal (n : Nat) (rest : Text) : skip (decimal n ++ rest) = decimal n ++ rest := by
  obtain ⟨d, u, hd, hother⟩ := Text.decimal_cons n
  rw [hd, List.cons_append]
  apply skip_cons
  simp [CodePoint.isLayout, hother ' ' rfl, hother '\t' rfl, hother '\n' rfl, hother '\r' rfl]

/-- A member of a record is read back, up to what stands behind its numeral. -/
theorem members_pair {name : Text} (h : ∀ c ∈ name, IsPlain c) {n : Nat} (hn : IsShort n)
    (fuel : Nat) (before : Assoc Json) {rest : Text} (hrest : EndsNumeral rest) :
    members (fuel + 2) before (encodeString name ++ ofString ": " ++ decimal n ++ rest) =
      (match skip rest with
      | .char '\x7d' :: rest => .ok (before.put name (.int n), rest)
      | .char ',' :: t => members (fuel + 1) (before.put name (.int n)) (skip t)
      | t => .error (.problem .noComma t)) := by
  have htext : encodeString name ++ ofString ": " ++ decimal n ++ rest =
      .char '"' :: (name ++ .char '"' :: .char ':' :: .char ' ' :: (decimal n ++ rest)) := by
    rw [encodeString_plain h]
    simp [ofString]
  have hcolon (t : Text) : skip (.char ':' :: t) = .char ':' :: t := skip_cons rfl t
  rw [htext]
  unfold members
  simp only [bind, Except.bind, readString_plain h, hcolon, skip_space, skip_decimal,
    value_decimal hn fuel hrest]
  rfl

/-- A record is read member by member. -/
theorem value_members {name : Text} (h : ∀ c ∈ name, IsPlain c) (fuel : Nat) (t : Text) :
    value (fuel + 1) (.char '\x7b' :: (encodeString name ++ t)) =
      (members fuel [] (encodeString name ++ t)).map fun (ms, rest) => (.object ms, rest) := by
  rw [encodeString_plain h]
  unfold value
  rfl

theorem skip_encodeString {name : Text} (h : ∀ c ∈ name, IsPlain c) (t : Text) :
    skip (encodeString name ++ t) = encodeString name ++ t := by
  rw [encodeString_plain h]
  exact skip_cons rfl _

/-- **A record of two natural numbers** is read back from its text. -/
theorem decode_encode_pair {a b : Text} (ha : ∀ c ∈ a, IsPlain c) (hb : ∀ c ∈ b, IsPlain c)
    (hne : a ≠ b) {m n : Nat} (hm : IsShort m) (hn : IsShort n) :
    decode (encode (.object [(a, .int m), (b, .int n)]) ++ [.char '\n']) =
      .ok (.object [(a, .int m), (b, .int n)]) := by
  have hbrace : EndsNumeral [.char '\x7d', .char '\n'] := ⟨_, _, rfl, by decide⟩
  have hcomma (rest : Text) : EndsNumeral (.char ',' :: .char ' ' :: rest) :=
    ⟨.char ',', .char ' ' :: rest, rfl, by decide⟩
  have htext : encode (.object [(a, .int m), (b, .int n)]) ++ [.char '\n'] =
      .char '\x7b' :: (encodeString a ++ (ofString ": " ++ decimal m ++
        .char ',' :: .char ' ' :: (encodeString b ++ ofString ": " ++ decimal n ++
          [.char '\x7d', .char '\n']))) := by
    simp [encode, encodeMembers, Text.decimalInt, ofString]
  have hput : Assoc.put b (int n) (Assoc.put a (int m) []) = [(a, int m), (b, int n)] := by
    simp [Assoc.put, hne]
  have hvalue (fuel : Nat) :
      value (fuel + 4) (.char '\x7b' :: (encodeString a ++ (ofString ": " ++ decimal m ++
        .char ',' :: .char ' ' :: (encodeString b ++ ofString ": " ++ decimal n ++
          [.char '\x7d', .char '\n'])))) =
      .ok (.object [(a, .int m), (b, .int n)], [.char '\n']) := by
    rw [value_members ha, ← List.append_assoc, ← List.append_assoc,
      members_pair ha hm _ _ (hcomma _), skip_cons rfl]
    simp only [skip_space, List.append_assoc, skip_encodeString hb]
    rw [← List.append_assoc, ← List.append_assoc, members_pair hb hn _ _ hbrace, skip_cons rfl]
    simp only [hput]
    rfl
  rw [htext]
  unfold decode document
  rw [List.head?_cons, if_neg (by decide), skip_cons rfl, List.length_cons,
    show ∀ k, 2 * (k + 1) + 2 = 2 * k + 4 by omega]
  simp only [bind, Except.bind, hvalue]
  rfl

end LineSift.Json
