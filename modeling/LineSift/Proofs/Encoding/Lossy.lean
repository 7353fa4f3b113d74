import LineSift.Proofs.Encoding.Lines
import Mathlib.Data.List.Forall2

/-!
# The usual way of decoding

By default bytes are read as UTF-8, and each span that stands for no code point becomes U+FFFD.
This never fails (`decode_default`).  A line feed in the text comes from a line feed in the bytes
(`lineFeed_not_mem_lossy`), because a sequence of two bytes or more stands for a code point beyond
ASCII (`Complete.not_lineFeed`); and a line feed ends whatever has begun before it
(`lossy_append_lineFeed`).
-/

namespace LineSift

theorem CodePoint.toNat_of_ofNat? {n : Nat} {c : CodePoint} (h : CodePoint.ofNat? n = some c) :
    c.toNat = n := by
  unfold CodePoint.ofNat? at h
  by_cases hvalid : n.isValidChar
  · rw [dif_pos hvalid] at h
    cases h
    rfl
  · rw [dif_neg hvalid] at h
    by_cases hlone : 0xD800 ≤ n ∧ n < 0xE000
    · rw [dif_pos hlone] at h
      cases h
      simp only [CodePoint.toNat]
      omega
    · rw [dif_neg hlone] at h
      cases h

/-- Only its own number gives a character other than U+FFFD. -/
theorem CodePoint.eq_toNat_of_ofNat {n : Nat} {c : Char} (h : CodePoint.ofNat n = .char c)
    (hc : c ≠ '\uFFFD') : n = c.toNat := by
  unfold CodePoint.ofNat at h
  cases hn : CodePoint.ofNat? n with
  | none =>
    rw [hn, Option.getD_none] at h
    injection h with h
    exact absurd h.symm hc
  | some d =>
    rw [hn, Option.getD_some] at h
    rw [← CodePoint.toNat_of_ofNat? hn, h]
    rfl

namespace Encoding

/-- The code point that a piece is read as when bad spans are replaced. -/
def Piece.lossy : Piece → CodePoint
  | .good _ c => c
  | .bad _ _ => .replacement

theorem Piece.lossy_bad (bytes : Bytes) (f : Fault) :
    (Piece.bad bytes f).lossy ≠ .char '\n' := by
  rw [Piece.lossy]
  decide

/-- The text of bytes in UTF-8, with U+FFFD for every span that stands for no code point. -/
def lossy (bytes : Bytes) : Text := (utf8Pieces bytes).map Piece.lossy

theorem treat_replace (e : Encoding) (ps : List Piece) (pos : Nat) :
    treat e (.ok .replace) pos ps = .ok (ps.map Piece.lossy) := by
  induction ps generalizing pos with
  | nil => rfl
  | cons p ps ih =>
    cases p with
    | good bytes c => simp [treat, ih, Except.map, Piece.lossy]
    | bad bytes f => simp [treat, ih, Except.map, Piece.lossy]

/-- By default every byte string has a text. -/
theorem decode_default (bytes : Bytes) :
    decode "utf-8" "replace" bytes = .ok (lossy bytes) := by
  have hname : ofName? (Text.ofString "utf-8") = some .utf8 := by decide +kernel
  have htreat : Treatment.ofName (Text.ofString "replace") = .ok .replace := rfl
  unfold decode
  split
  · next h => subst h; rfl
  · rw [hname]
    simp only [htreat]
    exact treat_replace _ _ _

/-! ## Sequences of several bytes -/

/-- Whether a byte lies in a range. -/
def Within (b : UInt8) (r : UInt8 × UInt8) : Prop := r.1 ≤ b ∧ b ≤ r.2

/-- A first byte with all the bytes that must follow it. -/
def Complete (bytes : Bytes) : Prop :=
  ∃ a rest, bytes = a :: rest ∧ followers a ≠ [] ∧ List.Forall₂ Within rest (followers a)

/-- A sequence that is begun: nothing at all, or a first byte with some of the bytes that must
follow it, while others are still needed. -/
def Begun.Sound (s : Begun) : Prop :=
  s = {} ∨ ∃ a rest done, s.bytes = a :: rest ∧ followers a = done ++ s.need ∧ s.need ≠ [] ∧
    List.Forall₂ Within rest done

/-- The shapes of what must follow a first byte: one byte, two or three.  The least first byte of
the longer sequences narrows the range of the second byte. -/
theorem followers_shape (a : UInt8) :
    followers a = [] ∨
    (0xC2 ≤ a.toNat ∧ a.toNat ≤ 0xDF ∧ followers a = [(0x80, 0xBF)]) ∨
    (∃ lo hi, 0xE0 ≤ a.toNat ∧ a.toNat ≤ 0xEF ∧ 0x80 ≤ lo ∧ hi ≤ 0xBF ∧
      (a.toNat = 0xE0 → lo = 0xA0) ∧ followers a = [(lo, hi), (0x80, 0xBF)]) ∨
    (∃ lo hi, 0xF0 ≤ a.toNat ∧ a.toNat ≤ 0xF4 ∧ 0x80 ≤ lo ∧ hi ≤ 0xBF ∧
      (a.toNat = 0xF0 → lo = 0x90) ∧ followers a = [(lo, hi), (0x80, 0xBF), (0x80, 0xBF)]) := by
  unfold followers
  simp only [UInt8.le_iff_toNat_le, ← UInt8.toNat_inj, UInt8.reduceToNat]
  split
  · next h => exact Or.inr (Or.inl ⟨h.1, h.2, rfl⟩)
  split
  · next h =>
    exact Or.inr (Or.inr (Or.inl ⟨0xA0, 0xBF, by omega, by omega, by decide, by decide,
      fun _ => rfl, rfl⟩))
  split
  · next h =>
    exact Or.inr (Or.inr (Or.inl ⟨0x80, 0x9F, by omega, by omega, by decide, by decide,
      fun e => by omega, rfl⟩))
  split
  · next h =>
    exact Or.inr (Or.inr (Or.inl ⟨0x80, 0xBF, by omega, by omega, by decide, by decide,
      fun e => by omega, rfl⟩))
  split
  · next h =>
    exact Or.inr (Or.inr (Or.inr ⟨0x90, 0xBF, by omega, by omega, by decide, by decide,
      fun _ => rfl, rfl⟩))
  split
  · next h =>
    exact Or.inr (Or.inr (Or.inr ⟨0x80, 0x8F, by omega, by omega, by decide, by decide,
      fun e => by omega, rfl⟩))
  split
  · next h =>
    exact Or.inr (Or.inr (Or.inr ⟨0x80, 0xBF, by omega, by omega, by decide, by decide,
      fun e => by omega, rfl⟩))
  · exact Or.inl rfl

/-- Bytes that must follow are beyond ASCII. -/
theorem followers_ge {a : UInt8} {r : UInt8 × UInt8} (h : r ∈ followers a) : 0x80 ≤ r.1 := by
  rcases followers_shape a with e | ⟨_, _, e⟩ | ⟨lo, _, _, _, hlo, _, _, e⟩ |
    ⟨lo, _, _, _, hlo, _, _, e⟩ <;> rw [e] at h <;> simp only [List.mem_cons, List.not_mem_nil,
      or_false] at h
  · rw [h]; decide
  · rcases h with rfl | rfl
    · exact hlo
    · decide
  · rcases h with rfl | rfl | rfl
    · exact hlo
    · decide
    · decide

/-- A sequence of several bytes does not stand for a line feed. -/
theorem Complete.not_lineFeed {bytes : Bytes} (h : Complete bytes) :
    assemble bytes ≠ .char '\n' := by
  obtain ⟨a, rest, rfl, hne, hw⟩ := h
  intro he
  have key : ∀ {n}, CodePoint.ofNat n = .char '\n' → n = 10 := fun hn =>
    CodePoint.eq_toNat_of_ofNat hn (by decide)
  rcases followers_shape a with e | ⟨ha, hb, e⟩ | ⟨lo, hi, ha, hb, -, hhi, h0, e⟩ |
    ⟨lo, hi, ha, hb, -, hhi, h0, e⟩
  · exact hne e
  · rw [e] at hw
    obtain ⟨b, _, h1, hn, rfl⟩ := List.forall₂_cons_right_iff.mp hw
    cases hn
    have := key he
    omega
  · rw [e] at hw
    obtain ⟨b, _, h1, hw', rfl⟩ := List.forall₂_cons_right_iff.mp hw
    obtain ⟨c, _, h2, hn, rfl⟩ := List.forall₂_cons_right_iff.mp hw'
    cases hn
    have hv := key he
    by_cases h : a.toNat = 0xE0
    · have hb : 0xA0 ≤ b.toNat := by
        have := UInt8.le_iff_toNat_le.mp h1.1
        rwa [h0 h] at this
      have hb' : b.toNat ≤ 0xBF := Nat.le_trans (UInt8.le_iff_toNat_le.mp h1.2)
        (UInt8.le_iff_toNat_le.mp hhi)
      omega
    · omega
  · rw [e] at hw
    obtain ⟨b, _, h1, hw', rfl⟩ := List.forall₂_cons_right_iff.mp hw
    obtain ⟨c, _, h2, hw'', rfl⟩ := List.forall₂_cons_right_iff.mp hw'
    obtain ⟨d, _, h3, hn, rfl⟩ := List.forall₂_cons_right_iff.mp hw''
    cases hn
    have hv := key he
    by_cases h : a.toNat = 0xF0
    · have hb : 0x90 ≤ b.toNat := by
        have := UInt8.le_iff_toNat_le.mp h1.1
        rwa [h0 h] at this
      have hb' : b.toNat ≤ 0xBF := Nat.le_trans (UInt8.le_iff_toNat_le.mp h1.2)
        (UInt8.le_iff_toNat_le.mp hhi)
      omega
    · omega

/-! ## The reader of sequences -/

theorem Begun.Sound.empty : Begun.Sound {} := Or.inl rfl

/-- What a first byte leads to: a code point of ASCII, nothing, or a sequence that is begun. -/
theorem first_sound (b : UInt8) :
    (first b).2.Sound ∧ ∀ p ∈ (first b).1, p.lossy = .char '\n' → b = 0x0A := by
  unfold first
  split
  · refine ⟨.empty, fun p hp he => ?_⟩
    rw [List.mem_singleton.mp hp] at he
    have hb : b.toNat = 10 := CodePoint.eq_toNat_of_ofNat he (by decide)
    exact UInt8.toNat_inj.mp hb
  · split
    · refine ⟨.empty, fun p hp he => ?_⟩
      rw [List.mem_singleton.mp hp] at he
      exact absurd he (Piece.lossy_bad _ _)
    · next hn =>
      exact ⟨Or.inr ⟨b, [], [], rfl, rfl, hn, .nil⟩, fun p hp => absurd hp List.not_mem_nil⟩

/-- A byte keeps what is begun sound, and only a line feed is read as one. -/
theorem next_sound {s : Begun} (h : s.Sound) (b : UInt8) :
    (next s b).2.Sound ∧ ∀ p ∈ (next s b).1, p.lossy = .char '\n' → b = 0x0A := by
  rcases h with rfl | ⟨a, rest, done, hbytes, hf, hneed, hw⟩
  · exact first_sound b
  obtain ⟨bytes, need⟩ := s
  dsimp only at hbytes hf hneed
  subst hbytes
  cases need with
  | nil => exact absurd rfl hneed
  | cons r need =>
    have hw' : Within b r → List.Forall₂ Within (rest ++ [b]) (done ++ [r]) := fun hb =>
      List.rel_append hw (.cons hb .nil)
    unfold next
    dsimp only
    split
    · next hb =>
      split
      · next hn =>
        subst hn
        refine ⟨.empty, fun p hp he => ?_⟩
        rw [List.mem_singleton.mp hp] at he
        have hc : Complete (a :: rest ++ [b]) :=
          ⟨a, rest ++ [b], rfl, by simp [hf], by rw [hf]; exact hw' hb⟩
        exact absurd he hc.not_lineFeed
      · next hn =>
        exact ⟨Or.inr ⟨a, rest ++ [b], done ++ [r], rfl, by simp [hf], hn, hw' hb⟩,
          fun p hp => absurd hp List.not_mem_nil⟩
    · refine ⟨(first_sound b).1, fun p hp he => ?_⟩
      rcases List.mem_cons.mp hp with rfl | hp
      · exact absurd he (Piece.lossy_bad _ _)
      · exact (first_sound b).2 p hp he

/-- A line feed breaks off what is begun, and is read as itself. -/
theorem next_lineFeed {s : Begun} (h : s.Sound) :
    (next s 0x0A).2 = {} ∧
      (next s 0x0A).1.map Piece.lossy = s.close.map Piece.lossy ++ [CodePoint.char '\n'] := by
  rcases h with rfl | ⟨a, rest, done, hbytes, hf, hneed, -⟩
  · exact ⟨rfl, by decide⟩
  obtain ⟨bytes, need⟩ := s
  dsimp only at hbytes hf hneed
  subst hbytes
  cases need with
  | nil => exact absurd rfl hneed
  | cons r need =>
    have hr : 0x80 ≤ r.1 := followers_ge (a := a) (by rw [hf]; simp)
    have hlf : ¬ (r.1 ≤ 0x0A ∧ 0x0A ≤ r.2) := fun hb =>
      absurd (UInt8.le_trans hr hb.1) (by decide)
    unfold next
    dsimp only
    rw [if_neg hlf]
    exact ⟨rfl, rfl⟩

theorem utf8From_sound {s : Begun} (h : s.Sound) (bytes : Bytes) :
    (utf8From s bytes).2.Sound ∧
      ∀ p ∈ (utf8From s bytes).1, p.lossy = .char '\n' → 0x0A ∈ bytes := by
  induction bytes generalizing s with
  | nil => exact ⟨h, fun p hp => absurd hp List.not_mem_nil⟩
  | cons b bs ih =>
    obtain ⟨hs, hp⟩ := next_sound h b
    obtain ⟨hs', hp'⟩ := ih hs
    refine ⟨hs', fun p hm he => ?_⟩
    rcases List.mem_append.mp hm with hm | hm
    · exact List.mem_cons.mpr (Or.inl (hp p hm he).symm)
    · exact List.mem_cons_of_mem _ (hp' p hm he)

theorem utf8From_append (s : Begun) (a b : Bytes) :
    utf8From s (a ++ b) =
      ((utf8From s a).1 ++ (utf8From (utf8From s a).2 b).1, (utf8From (utf8From s a).2 b).2) := by
  induction a generalizing s with
  | nil => rfl
  | cons c cs ih => simp only [List.cons_append, utf8From, ih, List.append_assoc]

/-! ## Line feeds -/

/-- Without a line feed in the bytes there is none in the text. -/
theorem lineFeed_not_mem_lossy {bytes : Bytes} (h : 0x0A ∉ bytes) :
    .char '\n' ∉ lossy bytes := by
  intro hm
  obtain ⟨p, hp, he⟩ := List.mem_map.mp hm
  rcases List.mem_append.mp hp with hp | hp
  · exact h ((utf8From_sound .empty bytes).2 p hp he)
  · unfold Begun.close at hp
    split at hp
    · exact absurd hp List.not_mem_nil
    · rw [List.mem_singleton.mp hp] at he
      exact absurd he (Piece.lossy_bad _ _)

/-- A line feed cuts the text where it cuts the bytes. -/
theorem lossy_append_lineFeed (a b : Bytes) :
    lossy (a ++ 0x0A :: b) = lossy a ++ .char '\n' :: lossy b := by
  obtain ⟨hs, hp⟩ := next_lineFeed (utf8From_sound .empty a).1
  simp only [lossy, utf8Pieces, utf8From_append, utf8From, hs, List.map_append, hp,
    List.append_assoc, List.singleton_append]

theorem lossy_nil : lossy [] = [] := rfl

end Encoding

end LineSift
