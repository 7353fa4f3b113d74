import LineSift.Config.Read
import LineSift.Proofs.Encoding.Ascii
import LineSift.Proofs.Encoding.Lossy

/-!
# A file that is text

A configuration is read in blocks, and a block can end within a sequence of bytes.  The sequence
waits for the next block and is begun again there, which leads to where it was (`utf8From_restart`).
So where the file as a whole is text, its blocks do not matter (`Source.ofBytes_eq`).
-/

namespace LineSift

namespace Encoding

/-! ## What is decoded strictly -/

/-- A piece that stands for a code point. -/
def Piece.IsGood (p : Piece) : Prop := ∃ bytes c, p = .good bytes c

theorem treat_of_good {ps : List Piece} (h : ∀ p ∈ ps, p.IsGood) (pos : Nat) :
    treat .utf8 (.ok .refuse) pos ps = .ok (ps.map Piece.lossy) := by
  induction ps generalizing pos with
  | nil => rfl
  | cons p ps ih =>
    obtain ⟨⟨bytes, c, rfl⟩, hps⟩ := List.forall_mem_cons.mp h
    rw [treat, ih hps]
    rfl

theorem good_of_treat {ps : List Piece} {pos : Nat} {t : Text}
    (h : treat .utf8 (.ok .refuse) pos ps = .ok t) : ∀ p ∈ ps, p.IsGood := by
  induction ps generalizing pos t with
  | nil => exact List.forall_mem_nil _
  | cons p ps ih =>
    cases p with
    | good bytes c =>
      rw [treat] at h
      cases hrest : treat .utf8 (.ok .refuse) (pos + bytes.length) ps with
      | error e =>
        rw [hrest] at h
        cases h
      | ok u => exact List.forall_mem_cons.mpr ⟨⟨bytes, c, rfl⟩, ih hrest⟩
    | bad bytes fault => cases h

theorem decodeStrict_eq_ok {bytes : Bytes} {t : Text} (h : decodeStrict bytes = .ok t) :
    (∀ p ∈ (utf8From {} bytes).1, p.IsGood) ∧ (utf8From {} bytes).2.bytes = [] ∧
      (utf8From {} bytes).1.map Piece.lossy = t := by
  have hall := good_of_treat h
  have hmap : (utf8Pieces bytes).map Piece.lossy = t :=
    Except.ok.inj ((treat_of_good hall 0).symm.trans h)
  unfold utf8Pieces at hall hmap
  dsimp only at hall hmap
  have hclosed : (utf8From {} bytes).2.bytes = [] := by
    by_contra hne
    have hlast : Piece.bad (utf8From {} bytes).2.bytes .endOfData ∈
        (utf8From {} bytes).1 ++ (utf8From {} bytes).2.close := by
      simp [Begun.close, hne]
    obtain ⟨_, _, h⟩ := hall _ hlast
    cases h
  rw [Begun.close, if_pos hclosed, List.append_nil] at hall hmap
  exact ⟨hall, hclosed, hmap⟩

/-! ## A sequence that is begun again -/

theorem first_of_followers {a : UInt8} (h : followers a ≠ []) :
    first a = ([], ⟨[a], followers a⟩) := by
  have hge : 0x80 ≤ a.toNat := by
    rcases followers_shape a with hnil | ⟨ha, -⟩ | ⟨_, _, ha, -⟩ | ⟨_, _, ha, -⟩
    · exact absurd hnil h
    all_goals omega
  have hnot : ¬ a < 0x80 := by
    rw [UInt8.lt_iff_toNat_lt]
    exact Nat.not_lt_of_le hge
  unfold first
  rw [if_neg hnot]
  split
  · next hnil => exact absurd hnil h
  · rfl

theorem utf8From_within {rest : Bytes} {done : List (UInt8 × UInt8)}
    (h : List.Forall₂ Within rest done) (before : Bytes) {need : List (UInt8 × UInt8)}
    (hneed : need ≠ []) :
    utf8From ⟨before, done ++ need⟩ rest = ([], ⟨before ++ rest, need⟩) := by
  induction h generalizing before with
  | nil => simp [utf8From]
  | @cons b r rest done hb _ ih =>
    have hnext : next ⟨before, r :: (done ++ need)⟩ b = ([], ⟨before ++ [b], done ++ need⟩) := by
      have hmore : done ++ need ≠ [] := List.append_ne_nil_of_right_ne_nil _ hneed
      unfold next
      dsimp only
      rw [if_pos (show r.1 ≤ b ∧ b ≤ r.2 from hb), if_neg hmore]
    rw [List.cons_append, utf8From, hnext]
    dsimp only
    rw [ih, List.nil_append, List.append_assoc, List.singleton_append]

/-- A sequence that has begun is begun by its own bytes. -/
theorem utf8From_restart {s : Begun} (h : s.Sound) : utf8From {} s.bytes = ([], s) := by
  rcases h with rfl | ⟨a, rest, done, hbytes, hfollowers, hneed, hwithin⟩
  · rfl
  have hne : followers a ≠ [] := by
    rw [hfollowers]
    exact List.append_ne_nil_of_right_ne_nil _ hneed
  have hfirst : next {} a = ([], ⟨[a], done ++ s.need⟩) := by
    rw [← hfollowers, ← first_of_followers hne]
    rfl
  rw [hbytes, utf8From, hfirst]
  dsimp only
  rw [utf8From_within hwithin [a] hneed, List.nil_append, List.singleton_append, ← hbytes]

end Encoding

namespace Config

open Encoding (Piece Begun utf8From)

/-! ## Blocks -/

theorem blockPieces_of_good {bytes : Bytes} (h : ∀ p ∈ (utf8From {} bytes).1, p.IsGood) :
    blockPieces bytes = ((utf8From {} bytes).1, (utf8From {} bytes).2.bytes) := by
  unfold blockPieces
  dsimp only
  split
  · next b f _ before _ hreverse =>
    have hbad : Piece.bad [b] f ∈ (utf8From {} bytes).1 := by
      rw [← List.mem_reverse, hreverse]
      exact List.mem_cons_self
    obtain ⟨_, _, hgood⟩ := h _ hbad
    cases hgood
  · rfl

/-- Blocks that are read on after a sequence has begun, where all of them together are text. -/
theorem readBlocks_of_good {n : Nat} {s : Begun} (hs : s.Sound) {bytes : Bytes}
    (hn : bytes.length ≤ n * blockSize) (hgood : ∀ p ∈ (utf8From s bytes).1, p.IsGood)
    (hend : (utf8From s bytes).2.bytes = []) (before : Text) :
    readBlocks (n + 1) before s.bytes bytes =
      ⟨(before ++ (utf8From s bytes).1.map Piece.lossy).unifyLineEnds.linesWithEnds, none⟩ := by
  induction n generalizing s bytes before with
  | zero =>
    obtain rfl : bytes = [] := List.length_eq_zero_iff.mp (by simpa using hn)
    obtain ⟨b, need⟩ := s
    obtain rfl : b = [] := hend
    simp [readBlocks, utf8From, Encoding.decodeStrict, Encoding.utf8Pieces, Begun.close,
      Encoding.treat]
  | succ n ih =>
    by_cases hempty : bytes = []
    · subst hempty
      obtain ⟨b, need⟩ := s
      obtain rfl : b = [] := hend
      simp [readBlocks, utf8From, Encoding.decodeStrict, Encoding.utf8Pieces, Begun.close,
        Encoding.treat]
    · -- the block, and the rest behind it
      have hcut := Encoding.utf8From_append s (bytes.take blockSize) (bytes.drop blockSize)
      rw [List.take_append_drop] at hcut
      rw [hcut] at hgood hend ⊢
      obtain ⟨hblock, hrest⟩ := List.forall_mem_append.mp hgood
      have hwaiting : utf8From {} (s.bytes ++ bytes.take blockSize) =
          utf8From s (bytes.take blockSize) := by
        rw [Encoding.utf8From_append, Encoding.utf8From_restart hs]
        rfl
      have hpieces : blockPieces (s.bytes ++ bytes.take blockSize) =
          ((utf8From s (bytes.take blockSize)).1, (utf8From s (bytes.take blockSize)).2.bytes) := by
        rw [← hwaiting] at hblock ⊢
        exact blockPieces_of_good hblock
      have htreat := Encoding.treat_of_good hblock 0
      have hlength : (bytes.drop blockSize).length ≤ n * blockSize := by
        rw [List.length_drop]
        rw [Nat.add_one_mul] at hn
        omega
      have hsound := (Encoding.utf8From_sound hs (bytes.take blockSize)).1
      rw [readBlocks]
      simp only [hpieces, htreat]
      rw [ih hsound hlength hrest hend, List.map_append, List.append_assoc]
      exact hempty

/-- **A file that is text** is read as the lines of this text. -/
theorem Source.ofBytes_eq {bytes : Bytes} {t : Text} (h : Encoding.decodeStrict bytes = .ok t) :
    Source.ofBytes bytes = ⟨t.unifyLineEnds.linesWithEnds, none⟩ := by
  obtain ⟨hgood, hend, hmap⟩ := Encoding.decodeStrict_eq_ok h
  have hlength : bytes.length ≤ (bytes.length / blockSize + 1) * blockSize := by
    have hpos : 0 < blockSize := by decide
    have hmod := Nat.mod_lt bytes.length hpos
    have hdiv := Nat.div_add_mod bytes.length blockSize
    rw [Nat.add_one_mul, Nat.mul_comm]
    omega
  have hread := readBlocks_of_good .empty hlength hgood hend []
  rw [hmap, List.nil_append] at hread
  exact hread

end Config

end LineSift
