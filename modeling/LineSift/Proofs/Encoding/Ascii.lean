import LineSift.Encoding.Decode
import LineSift.Text.Lines

/-!
# ASCII text in a file

A text in ASCII is read back from its bytes (`decodeStrict_encode_ascii`), and without carriage
returns its lines end as they were written (`unifyLineEnds_eq`).
-/

namespace LineSift

theorem CodePoint.ofNat_toNat {c : CodePoint} (h : c.toNat < 0x80) :
    CodePoint.ofNat c.toNat = c := by
  cases c with
  | char c =>
    have hvalid : c.toNat.isValidChar := c.valid
    unfold CodePoint.ofNat CodePoint.ofNat? CodePoint.toNat
    rw [dif_pos hvalid]
    rfl
  | lone n =>
    simp only [CodePoint.toNat] at h
    omega

namespace Encoding

/-- A code point of ASCII is one byte. -/
theorem encodeCodePoint_ascii {c : CodePoint} (h : c.toNat < 0x80) :
    encodeCodePoint c = [c.toNat.toUInt8] := by
  unfold encodeCodePoint
  rw [if_pos h]

theorem next_ascii {c : CodePoint} (h : c.toNat < 0x80) :
    next {} c.toNat.toUInt8 = ([.good [c.toNat.toUInt8] c], {}) := by
  have hval : c.toNat.toUInt8.toNat = c.toNat := by
    have hsize : c.toNat < UInt8.size := Nat.lt_trans h (by decide)
    exact UInt8.toNat_ofNat_of_lt' hsize
  have hlt : c.toNat.toUInt8 < 0x80 := by
    rw [UInt8.lt_iff_toNat_lt, hval]
    exact h
  unfold next first
  rw [if_pos hlt, assemble, hval, CodePoint.ofNat_toNat h]

/-- A text in ASCII is read back, code point by code point. -/
theorem utf8From_encode_ascii {t : Text} (h : ∀ c ∈ t, c.toNat < 0x80) :
    utf8From {} (encode t) = (t.map fun c => .good [c.toNat.toUInt8] c, {}) := by
  induction t with
  | nil => rfl
  | cons c t ih =>
    have hc := h c List.mem_cons_self
    have ih := ih fun d hd => h d (List.mem_cons_of_mem _ hd)
    unfold encode at ih ⊢
    rw [List.flatMap_cons, encodeCodePoint_ascii hc, List.singleton_append, utf8From,
      next_ascii hc]
    dsimp only
    rw [ih]
    rfl

/-- A text in ASCII is read back from its bytes. -/
theorem decodeStrict_encode_ascii {t : Text} (h : ∀ c ∈ t, c.toNat < 0x80) :
    decodeStrict (encode t) = .ok t := by
  have htreat (pos : Nat) : treat .utf8 (.ok .refuse) pos
      (t.map fun c => .good [c.toNat.toUInt8] c) = .ok t := by
    clear h
    induction t generalizing pos with
    | nil => rfl
    | cons c t ih =>
      rw [List.map_cons, treat, ih]
      rfl
  unfold decodeStrict utf8Pieces
  rw [utf8From_encode_ascii h]
  dsimp only
  rw [Begun.close, if_pos rfl, List.append_nil]
  exact htreat 0

end Encoding

/-- Without carriage returns the ends of lines stay as they are. -/
theorem Text.unifyLineEnds_eq {t : Text} (h : .char '\r' ∉ t) : t.unifyLineEnds = t := by
  induction t with
  | nil => rfl
  | cons c t ih =>
    have hc : c ≠ .char '\r' := fun he => h (he ▸ List.mem_cons_self)
    have ht : .char '\r' ∉ t := fun hm => h (List.mem_cons_of_mem _ hm)
    unfold Text.unifyLineEnds
    split
    · next heq => cases heq
    · next heq =>
      exact absurd (List.cons.inj heq).1 hc
    · next heq =>
      cases heq
      rw [if_neg hc, ih ht]

end LineSift
