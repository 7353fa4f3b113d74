import LineSift.Proofs.Regex.Language

/-!
# The order in which matches are tried

Which match is found can depend on the order in which they are tried.  A greedy run is tried from
its longest form down and a lazy one from its shortest form up; so the first form behind which the
rest of the pattern can be matched decides (`tryDown_of_fewer`, `tryUp_of_first`), and of two
alternatives the second counts only if the first fails (`run_alt`).
-/

namespace LineSift.Regex

variable {s : Array CodePoint} {item : Progress → Cont → Option Progress} {line : Text}

/-! ## One way or another -/

theorem tryUp_succ (p : Progress) (k : Cont) (n : Nat) :
    tryUp p k (n + 1) = (k p).or (tryUp (p.moveTo (p.pos + 1)) k n) := by
  rw [tryUp]
  cases k p <;> rfl

theorem matchMany_succ (p : Progress) (k : Cont) (n : Nat) : matchMany item (n + 1) p k =
    (item p fun q => if q.pos = p.pos then k q else matchMany item n q k).or (k p) := by
  rw [matchMany]
  cases item p fun q => if q.pos = p.pos then k q else matchMany item n q k <;> rfl

theorem matchFew_succ (p : Progress) (k : Cont) (n : Nat) : matchFew item (n + 1) p k =
    (k p).or (item p fun q => if q.pos = p.pos then k q else matchFew item n q k) := by
  rw [matchFew]
  cases k p <;> rfl

/-- One part or, where it fails, the other. -/
theorem run_alt (a b : Node) (p : Progress) (k : Cont) :
    (Node.alt a b).run s p k = (a.run s p k).or (b.run s p k) := by
  rw [Node.run]
  cases a.run s p k <;> rfl

/-! ## Single code points and runs -/

/-- Moving on twice. -/
theorem Progress.moveTo_on (p : Progress) (i j : Nat) :
    (p.moveTo (p.pos + i)).moveTo ((p.moveTo (p.pos + i)).pos + j) =
      p.moveTo (p.pos + (i + j)) := by
  simp only [moveTo, Nat.add_assoc]

theorem run_char_nil (t : CharTest) {p : Progress} (h : line.drop p.pos = []) (k : Cont) :
    (Node.char t).run line.toArray p k = none := by
  rw [Node.run, getElem?_toArray_of_drop h]
  rfl

theorem run_char_cons (t : CharTest) {p : Progress} {c : CodePoint} {u : Text}
    (h : line.drop p.pos = c :: u) (k : Cont) :
    (Node.char t).run line.toArray p k =
      if t.test c then k (p.moveTo (p.pos + 1)) else none := by
  rw [Node.run, getElem?_toArray_of_drop h]
  rfl

theorem runLength_toArray (t : CharTest) (p : Progress) :
    runLength line.toArray t p.pos (line.toArray.size - p.pos) =
      ((line.drop p.pos).takeWhile t.test).length :=
  runLength_eq t rfl (by simp only [List.length_drop, List.size_toArray, Nat.le_refl])

/-- A greedy run is tried from its longest form down. -/
theorem run_greedy (t : CharTest) (p : Progress) (k : Cont) :
    (Node.charRun .greedy 0 none t).run line.toArray p k =
      tryDown p k ((line.drop p.pos).takeWhile t.test).length := by
  rw [Node.run, matchCharRun]
  simp only [runLength_toArray, Nat.not_lt_zero, if_false]
  rfl

/-- A lazy run is tried from its shortest form up. -/
theorem run_lazy (t : CharTest) (p : Progress) (k : Cont) :
    (Node.charRun .lazy 0 none t).run line.toArray p k =
      tryUp p k ((line.drop p.pos).takeWhile t.test).length := by
  rw [Node.run, matchCharRun]
  simp only [runLength_toArray, Nat.not_lt_zero, if_false]
  rfl

theorem tryDown_of_most {p : Progress} {k : Cont} {n : Nat} {r : Progress}
    (h : k (p.moveTo (p.pos + n)) = some r) : tryDown p k n = some r := by
  cases n with
  | zero => exact h
  | succ n => rw [tryDown, h]

/-- Where the rest fails behind every shorter run, only the longest counts. -/
theorem tryDown_of_fewer {p : Progress} {k : Cont} {n : Nat}
    (h : ∀ i < n, k (p.moveTo (p.pos + i)) = none) : tryDown p k n = k (p.moveTo (p.pos + n)) := by
  induction n with
  | zero => rfl
  | succ n ih =>
    rw [tryDown, ih fun i hi => h i (Nat.lt_succ_of_lt hi), h n (Nat.lt_succ_self n)]
    cases k (p.moveTo (p.pos + (n + 1))) <;> rfl

theorem tryUp_of_first {p : Progress} {k : Cont} {i n : Nat} {r : Progress} (hi : i ≤ n)
    (hbefore : ∀ j < i, k (p.moveTo (p.pos + j)) = none)
    (h : k (p.moveTo (p.pos + i)) = some r) : tryUp p k n = some r := by
  induction i generalizing p n with
  | zero =>
    have hk : k p = some r := h
    cases n with
    | zero => exact hk
    | succ n => rw [tryUp_succ, hk, Option.some_or]
  | succ i ih =>
    obtain ⟨n, rfl⟩ := Nat.exists_eq_add_of_le' (Nat.le_trans (Nat.succ_le_succ (Nat.zero_le i)) hi)
    have hk : k p = none := hbefore 0 (Nat.succ_pos i)
    rw [tryUp_succ, hk, Option.none_or]
    refine ih (Nat.le_of_succ_le_succ hi) (fun j hj => ?_) ?_
    · rw [Progress.moveTo_on, Nat.add_comm 1]
      exact hbefore (j + 1) (Nat.succ_lt_succ hj)
    · rw [Progress.moveTo_on, Nat.add_comm 1]
      exact h

end LineSift.Regex
