import LineSift.Proofs.Effect
import LineSift.Proofs.Marker.Resume
import LineSift.Proofs.Marker.Saved

/-!
# What the file of a marker says

The file of a marker may hold any bytes.  They say something only if they are the text of a JSON
object in which both numbers are natural ones (`ofBytes_eq_ok`), and even then a file is read on
from the offset only if it is the one that was read, as far as this is known, and reaches so far
(`startsAt_resume`).  JSON that is nested deeper than an interpreter's stack allows is taken for
what it says, like any other.
-/

namespace LineSift.Marker

open Text (ofString)

variable {bytes : Bytes} {m m' : Marker} {f : File} {start start' : Nat}

/-- Bytes hold a marker: they are the text of a JSON object, and the two members that tell of the
marker are natural numbers. -/
def Holds (bytes : Bytes) (m : Marker) : Prop :=
  ∃ t members, Encoding.decodeStrict bytes = .ok t ∧
    Json.decode t.unifyLineEnds = .ok (.object members) ∧
    Assoc.get? (ofString "inode") members = some (.int m.inode) ∧
    Assoc.get? (ofString "offset") members = some (.int m.offset)

theorem count?_eq_some {name : String} {v : Json} {n : Nat} :
    count? name v = some n ↔ v.member? (ofString name) = some (.int n) := by
  unfold count?
  split
  · next k hk =>
    rw [hk]
    constructor
    · rintro ⟨⟩
      rfl
    · rintro ⟨⟩
      rfl
  · next hne =>
    constructor
    · rintro ⟨⟩
    · intro h
      exact absurd h (hne n)

theorem member?_eq_some {name : Text} {v w : Json} :
    v.member? name = some w ↔ ∃ members, v = .object members ∧
      Assoc.get? name members = some w := by
  constructor
  · intro h
    unfold Json.member? at h
    split at h
    · next members => exact ⟨members, rfl, h⟩
    · cases h
  · rintro ⟨members, rfl, h⟩
    exact h

theorem ofRecord_eq_ok {v : Json} :
    ofRecord v = .ok m ↔ count? "inode" v = some m.inode ∧ count? "offset" v = some m.offset := by
  unfold ofRecord
  split
  · next inode offset hinode hoffset =>
    rw [hinode, hoffset]
    constructor
    · rintro ⟨⟩
      exact ⟨rfl, rfl⟩
    · rintro ⟨⟨⟩, ⟨⟩⟩
      rfl
  · next hne =>
    constructor
    · rintro ⟨⟩
    · rintro ⟨hinode, hoffset⟩
      exact absurd hoffset (hne _ _ hinode)

/-- **Bytes are read as the marker** that they hold. -/
theorem ofBytes_eq_ok : ofBytes bytes = .ok m ↔ Holds bytes m := by
  constructor
  · intro h
    unfold ofBytes at h
    rcases ht : Encoding.decodeStrict bytes with e | t
    · rw [ht] at h
      cases h
    · rw [ht] at h
      rcases hv : Json.decode t.unifyLineEnds with e | v
      · simp only [Except.mapError, bind, Except.bind, hv] at h
        cases h
      · simp only [Except.mapError, bind, Except.bind, hv] at h
        obtain ⟨hinode, hoffset⟩ := ofRecord_eq_ok.mp (Effect.mapError_eq_ok.mp h)
        obtain ⟨members, rfl, hmember⟩ := member?_eq_some.mp (count?_eq_some.mp hinode)
        exact ⟨t, members, ht, hv, hmember, count?_eq_some.mp hoffset⟩
  · rintro ⟨t, members, ht, hv, hinode, hoffset⟩
    have hrecord : ofRecord (.object members) = .ok m :=
      ofRecord_eq_ok.mpr ⟨count?_eq_some.mpr hinode, count?_eq_some.mpr hoffset⟩
    unfold ofBytes
    rw [ht]
    simp only [Except.mapError, bind, Except.bind, hv, hrecord]

theorem Holds.unique (h : Holds bytes m) (h' : Holds bytes m') : m = m' :=
  Except.ok.inj ((ofBytes_eq_ok.mpr h).symm.trans (ofBytes_eq_ok.mpr h'))

/-- Where a file is read on by what the file of its marker holds: at the offset of a marker that
fits it, and else at its beginning. -/
def StartsAt (bytes : Bytes) (f : File) (start : Nat) : Prop :=
  (∃ m, Holds bytes m ∧ m.Fits f ∧ start = m.offset) ∨
  (∀ m, Holds bytes m → ¬ m.Fits f) ∧ start = 0

theorem StartsAt.unique (h : StartsAt bytes f start) (h' : StartsAt bytes f start') :
    start = start' := by
  rcases h with ⟨m, hm, hfits, rfl⟩ | ⟨hnone, rfl⟩ <;>
    rcases h' with ⟨m', hm', hfits', rfl⟩ | ⟨hnone', rfl⟩
  · rw [hm.unique hm']
  · exact absurd hfits (hnone' m hm)
  · exact absurd hfits' (hnone m' hm')
  · rfl

theorem StartsAt.le_size (h : StartsAt bytes f start) : start ≤ f.size := by
  rcases h with ⟨m, -, hfits, rfl⟩ | ⟨-, rfl⟩
  · exact hfits.2
  · exact Nat.zero_le _

/-- **Reading on** begins where the bytes of the file of the marker say; bytes that hold no marker
are taken for a marker that says nothing. -/
theorem startsAt_resume (bytes : Bytes) (hf : f.inode ≠ 0) :
    StartsAt bytes f (resume (some ((ofBytes bytes).toOption.getD {})) f 0) := by
  cases hm : ofBytes bytes with
  | error e =>
    refine Or.inr ⟨fun m h => ?_, rfl⟩
    rw [ofBytes_eq_ok.mpr h] at hm
    cases hm
  | ok m =>
    have hholds := ofBytes_eq_ok.mp hm
    rw [Except.toOption, Option.getD_some]
    by_cases hfits : m.Fits f
    · exact Or.inl ⟨m, hholds, hfits, resume_of_fits hfits⟩
    · refine Or.inr ⟨fun m' h => ?_, resume_of_not_fits hf hfits 0⟩
      rw [h.unique hholds]
      exact hfits

end LineSift.Marker
