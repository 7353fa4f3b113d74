import LineSift.Proofs.Regex.Advance
import LineSift.Proofs.Regex.Order

/-!
# A match with an easier rest

A node is matched with the rest of a match behind it.  Where it is matched with one rest, it is
matched with every rest that succeeds where the first does (`Node.run_eases`); which match is found
may be another one.  So a node that goes on behind another one is matched only where that one is
(`ContinuedBy`).
-/

namespace LineSift.Regex

/-- One rest of a match succeeds wherever another one does. -/
def Easier (k k' : Cont) : Prop := ∀ q, (k q).isSome → (k' q).isSome

/-- A step of a match that succeeds with an easier rest if it does with a harder one. -/
def Eases (item : Progress → Cont → Option Progress) : Prop :=
  ∀ ⦃p : Progress⦄ ⦃k k' : Cont⦄, Easier k k' → (item p k).isSome → (item p k').isSome

variable {s : Array CodePoint} {item : Progress → Cont → Option Progress}

/-! ## One way or another -/

theorem isSome_or_imp {a b a' b' : Option Progress} (ha : a.isSome → a'.isSome)
    (hb : b.isSome → b'.isSome) (h : (a.or b).isSome) : (a'.or b').isSome := by
  rw [Option.isSome_or, Bool.or_eq_true] at h ⊢
  exact h.imp ha hb

/-! ## Repetitions -/

theorem tryUp_isSome {p : Progress} {k : Cont} {n i : Nat} (hi : i ≤ n)
    (h : (k (p.moveTo (p.pos + i))).isSome) : (tryUp p k n).isSome := by
  induction n generalizing p i with
  | zero =>
    obtain rfl : i = 0 := Nat.le_zero.mp hi
    exact h
  | succ n ih =>
    rw [tryUp_succ, Option.isSome_or, Bool.or_eq_true]
    cases i with
    | zero => exact Or.inl h
    | succ i =>
      refine Or.inr (ih (Nat.le_of_succ_le_succ hi) ?_)
      have hpos : p.pos + 1 + i = p.pos + (i + 1) := by omega
      simp only [Progress.moveTo, hpos]
      exact h

theorem matchCharRun_eases (greed : Greed) (lo : Nat) (hi : Option Nat) (t : CharTest) :
    Eases (matchCharRun s greed lo hi t) := by
  intro p k k' hk h
  unfold matchCharRun at h ⊢
  dsimp only at h ⊢
  generalize runLength s t p.pos _ = n at h ⊢
  by_cases hlo : n < lo
  · rw [if_pos hlo] at h
    cases h
  · rw [if_neg hlo] at h ⊢
    cases greed with
    | greedy =>
      obtain ⟨r, hr⟩ := Option.isSome_iff_exists.mp h
      obtain ⟨i, hi, hr⟩ := exists_of_tryDown hr
      exact tryDown_isSome hi (hk _ (by rw [hr]; rfl))
    | lazy =>
      obtain ⟨r, hr⟩ := Option.isSome_iff_exists.mp h
      obtain ⟨i, hi, hr⟩ := exists_of_tryUp hr
      exact tryUp_isSome hi (hk _ (by rw [hr]; rfl))
    | possessive => exact hk _ h

theorem matchTimes_eases (h : Eases item) (n : Nat) : Eases (matchTimes item n) := by
  induction n with
  | zero => exact fun p k k' hk => hk p
  | succ n ih => exact fun p k k' hk => h fun q => ih hk

/-- The rest behind one of several repetitions, the last of which may consume nothing. -/
theorem Easier.unless {k k' l l' : Cont} (hk : Easier k k') (hl : Easier l l') (pos : Nat) :
    Easier (fun q => if q.pos = pos then k q else l q)
      fun q => if q.pos = pos then k' q else l' q := by
  intro q
  dsimp only
  split
  · exact hk q
  · exact hl q

theorem matchMany_eases (h : Eases item) (n : Nat) : Eases (matchMany item n) := by
  induction n with
  | zero => exact fun p k k' hk => hk p
  | succ n ih =>
    intro p k k' hk
    rw [matchMany_succ, matchMany_succ]
    exact isSome_or_imp (h (hk.unless (fun q => ih hk) p.pos)) (hk p)

theorem matchFew_eases (h : Eases item) (n : Nat) : Eases (matchFew item n) := by
  induction n with
  | zero => exact fun p k k' hk => hk p
  | succ n ih =>
    intro p k k' hk
    rw [matchFew_succ, matchFew_succ]
    exact isSome_or_imp (hk p) (h (hk.unless (fun q => ih hk) p.pos))

theorem matchRepeated_eases (h : Eases item) (greed : Greed) (lo : Nat) (hi : Option Nat) :
    Eases (matchRepeated s item greed lo hi) := by
  intro p k k' hk
  cases greed with
  | greedy => exact matchTimes_eases h lo fun q => matchMany_eases h _ hk
  | lazy => exact matchTimes_eases h lo fun q => matchFew_eases h _ hk
  | possessive =>
    rw [matchRepeated, matchRepeated]
    split
    · exact hk _
    · exact id

/-! ## All nodes -/

/-- **An easier rest is matched** behind a node where a harder one is. -/
theorem Node.run_eases (n : Node) : Eases (n.run s) := by
  induction n with
  | empty => exact fun p k k' hk => hk p
  | char t =>
    intro p k k' hk
    rw [Node.run, Node.run]
    split
    · split
      · exact hk _
      · exact id
    · exact id
  | anchor a =>
    intro p k k' hk
    rw [Node.run, Node.run]
    split
    · exact hk p
    · exact id
  | seq a b iha ihb => exact fun p k k' hk => iha fun q => ihb hk
  | alt a b iha ihb =>
    intro p k k' hk
    rw [run_alt, run_alt]
    exact isSome_or_imp (iha hk) (ihb hk)
  | group i body ih => exact fun p k k' hk => ih fun q => hk _
  | charRun greed lo hi t => exact matchCharRun_eases greed lo hi t
  | repeated greed lo hi body ih => exact matchRepeated_eases ih greed lo hi
  | ahead negated body _ =>
    intro p k k' hk
    rw [Node.run, Node.run]
    split
    · split
      · exact id
      · exact hk _
    · split
      · exact hk p
      · exact id
  | behind negated width body _ =>
    intro p k k' hk
    rw [Node.run, Node.run]
    split
    · split
      · exact id
      · exact hk _
    · split
      · exact hk p
      · exact id
  | backref i mode =>
    intro p k k' hk
    rw [Node.run, Node.run]
    split
    · split
      · exact hk _
      · exact id
    · exact id
  | cond i yes no ihyes ihno =>
    intro p k k' hk
    rw [Node.run, Node.run]
    split
    · exact ihyes hk
    · exact ihno hk
  | atomic body _ =>
    intro p k k' hk
    rw [Node.run, Node.run]
    split
    · exact hk _
    · exact id

/-- A node that goes on as another one does, with further nodes behind its last alternative. -/
inductive Node.ContinuedBy : Node → Node → Prop
  | last (ns ms : List Node) : ContinuedBy (.ofList ns) (.ofList (ns ++ ms))
  | alt (n : Node) {m m' : Node} : ContinuedBy m m' → ContinuedBy (.alt n m) (.alt n m')

theorem Node.ContinuedBy.isSome_run {n m : Node} (h : n.ContinuedBy m) {p : Progress}
    (hm : (m.run s p some).isSome) : (n.run s p some).isSome := by
  induction h with
  | last ns ms =>
    rw [run_ofList_append] at hm
    exact (Node.ofList ns).run_eases (fun q _ => rfl) hm
  | alt n _ ih =>
    rw [run_alt] at hm ⊢
    exact isSome_or_imp id ih hm
end LineSift.Regex
