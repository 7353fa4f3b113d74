import LineSift.Proofs.Regex.Language

/-!
# A match never goes back

Whatever a node is, the rest of the match is tried at its position or behind it, and never beyond
the end of the text (`Node.run_advances`).  What looks ahead or behind comes back to where it began.
So if literal code points stand before and behind other nodes between the anchors, a text that is
matched over its full span begins with the first and ends with the last, and they do not overlap
(`literals_of_matchesSpan`).
-/

namespace LineSift.Regex

/-- The rest of a match is tried at a position or behind it, within the text. -/
def GoesOn (s : Array CodePoint) (p : Progress) (k : Cont) (r : Progress) : Prop :=
  ∃ q : Progress, p.pos ≤ q.pos ∧ q.pos ≤ s.size ∧ k q = some r

/-- A step of a match behind which the match goes on. -/
def Advances (s : Array CodePoint) (item : Progress → Cont → Option Progress) : Prop :=
  ∀ ⦃p : Progress⦄ ⦃k : Cont⦄ ⦃r : Progress⦄, p.pos ≤ s.size → item p k = some r → GoesOn s p k r

section

variable {s : Array CodePoint} {item : Progress → Cont → Option Progress}

theorem GoesOn.here {p : Progress} {k : Cont} {r : Progress} (hp : p.pos ≤ s.size)
    (h : k p = some r) : GoesOn s p k r :=
  ⟨p, Nat.le_refl _, hp, h⟩

/-- What goes on from a later place goes on from an earlier one. -/
theorem GoesOn.later {p q : Progress} {k : Cont} {r : Progress} (hpq : p.pos ≤ q.pos)
    (h : GoesOn s q k r) : GoesOn s p k r := by
  obtain ⟨q', hqq, hq', hk⟩ := h
  exact ⟨q', Nat.le_trans hpq hqq, hq', hk⟩

/-! ## Runs of code points -/

theorem runLength_le (t : CharTest) (pos limit : Nat) : runLength s t pos limit ≤ limit := by
  induction limit generalizing pos with
  | zero => exact Nat.le_refl 0
  | succ limit ih =>
    rw [runLength]
    split
    · split
      · exact Nat.succ_le_succ (ih _)
      · exact Nat.zero_le _
    · exact Nat.zero_le _

/-- When trying numbers of repetitions from below succeeds, it is with one of them. -/
theorem exists_of_tryUp {p : Progress} {k : Cont} {n : Nat} {r : Progress}
    (h : tryUp p k n = some r) : ∃ i, i ≤ n ∧ k (p.moveTo (p.pos + i)) = some r := by
  induction n generalizing p with
  | zero => exact ⟨0, Nat.le_refl 0, h⟩
  | succ n ih =>
    rw [tryUp] at h
    split at h
    · next hk => exact ⟨0, Nat.zero_le _, hk.trans h⟩
    · obtain ⟨i, hi, hk⟩ := ih h
      refine ⟨i + 1, Nat.succ_le_succ hi, ?_⟩
      rw [Nat.add_comm i 1, ← Nat.add_assoc]
      exact hk

/-- A run of code points advances by their number. -/
theorem matchCharRun_advances (greed : Greed) (lo : Nat) (hi : Option Nat) (t : CharTest) :
    Advances s (matchCharRun s greed lo hi t) := by
  intro p k r hp h
  unfold matchCharRun at h
  dsimp only at h
  generalize hn : runLength s t p.pos _ = n at h
  have hroom : n ≤ s.size - p.pos := by
    rw [← hn]
    refine Nat.le_trans (runLength_le t p.pos _) ?_
    split
    · exact Nat.min_le_right _ _
    · exact Nat.le_refl _
  split at h
  · cases h
  · cases greed with
    | greedy =>
      obtain ⟨i, hi, hk⟩ := exists_of_tryDown h
      exact ⟨_, by simp only [Progress.moveTo]; omega, by simp only [Progress.moveTo]; omega, hk⟩
    | lazy =>
      obtain ⟨i, hi, hk⟩ := exists_of_tryUp h
      exact ⟨_, by simp only [Progress.moveTo]; omega, by simp only [Progress.moveTo]; omega, hk⟩
    | possessive =>
      exact ⟨_, by simp only [Progress.moveTo]; omega, by simp only [Progress.moveTo]; omega, h⟩

/-! ## Repeated parts -/

theorem matchTimes_advances (h : Advances s item) (n : Nat) : Advances s (matchTimes item n) := by
  induction n with
  | zero => exact fun p k r hp hr => .here hp hr
  | succ n ih =>
    intro p k r hp hr
    obtain ⟨q, hpq, hq, hr⟩ := h hp hr
    exact (ih hq hr).later hpq

theorem matchMany_advances (h : Advances s item) (n : Nat) : Advances s (matchMany item n) := by
  induction n with
  | zero => exact fun p k r hp hr => .here hp hr
  | succ n ih =>
    intro p k r hp hr
    rw [matchMany] at hr
    split at hr
    · next r' hitem =>
      obtain ⟨q, hpq, hq, hk⟩ := h hp (hitem.trans hr)
      dsimp only at hk
      split at hk
      · exact ⟨q, hpq, hq, hk⟩
      · exact (ih hq hk).later hpq
    · exact .here hp hr

theorem matchFew_advances (h : Advances s item) (n : Nat) : Advances s (matchFew item n) := by
  induction n with
  | zero => exact fun p k r hp hr => .here hp hr
  | succ n ih =>
    intro p k r hp hr
    rw [matchFew] at hr
    split at hr
    · next r' hk => exact .here hp (hk.trans hr)
    · obtain ⟨q, hpq, hq, hk⟩ := h hp hr
      dsimp only at hk
      split at hk
      · exact ⟨q, hpq, hq, hk⟩
      · exact (ih hq hk).later hpq

theorem matchAll_advances (h : Advances s item) (n : Nat) {p : Progress} (hp : p.pos ≤ s.size) :
    p.pos ≤ (matchAll item n p).pos ∧ (matchAll item n p).pos ≤ s.size := by
  induction n generalizing p with
  | zero => exact ⟨Nat.le_refl _, hp⟩
  | succ n ih =>
    rw [matchAll]
    split
    · next q hitem =>
      obtain ⟨q', hpq, hq, hqq⟩ := h hp hitem
      cases hqq
      split
      · exact ⟨hpq, hq⟩
      · exact ⟨Nat.le_trans hpq (ih hq).1, (ih hq).2⟩
    · exact ⟨Nat.le_refl _, hp⟩

/-- A part whose first way is kept goes on as the part does. -/
theorem Advances.first (h : Advances s item) : Advances s fun p k => (item p some).bind k := by
  intro p k r hp hr
  obtain ⟨q, hitem, hk⟩ := Option.bind_eq_some_iff.mp hr
  obtain ⟨q', hpq, hq, hqq⟩ := h hp hitem
  cases hqq
  exact ⟨q, hpq, hq, hk⟩

/-- **A repetition** advances if what is repeated does, however greedy it is. -/
theorem matchRepeated_advances (h : Advances s item) (greed : Greed) (lo : Nat) (hi : Option Nat) :
    Advances s (matchRepeated s item greed lo hi) := by
  intro p k r hp hr
  cases greed with
  | greedy =>
    obtain ⟨q, hpq, hq, hr⟩ := matchTimes_advances h lo hp hr
    exact (matchMany_advances h _ hq hr).later hpq
  | lazy =>
    obtain ⟨q, hpq, hq, hr⟩ := matchTimes_advances h lo hp hr
    exact (matchFew_advances h _ hq hr).later hpq
  | possessive =>
    rw [matchRepeated] at hr
    split at hr
    · next q htimes =>
      obtain ⟨q', hpq, hq, hqq⟩ := matchTimes_advances h.first lo hp htimes
      cases hqq
      obtain ⟨hall, hsize⟩ := matchAll_advances h (usefulRepeats s lo hi q.pos) hq
      exact ⟨_, Nat.le_trans hpq hall, hsize, hr⟩
    · cases hr

/-! ## All nodes -/

/-- **A match never goes back**, whatever is matched. -/
theorem Node.run_advances (n : Node) : Advances s (n.run s) := by
  induction n with
  | empty => exact fun p k r hp hr => .here hp hr
  | char t =>
    intro p k r hp hr
    rw [Node.run] at hr
    split at hr
    · next c hc =>
      split at hr
      · have hlt : p.pos < s.size := by
          obtain ⟨hlt, -⟩ := Array.getElem?_eq_some_iff.mp hc
          exact hlt
        exact ⟨p.moveTo (p.pos + 1), Nat.le_succ _, hlt, hr⟩
      · cases hr
    · cases hr
  | anchor a =>
    intro p k r hp hr
    rw [Node.run] at hr
    split at hr
    · exact .here hp hr
    · cases hr
  | seq a b iha ihb =>
    intro p k r hp hr
    obtain ⟨q, hpq, hq, hr⟩ := iha hp hr
    exact (ihb hq hr).later hpq
  | alt a b iha ihb =>
    intro p k r hp hr
    rw [Node.run] at hr
    split at hr
    · next r' ha => exact iha hp (ha.trans hr)
    · exact ihb hp hr
  | group i body ih =>
    intro p k r hp hr
    obtain ⟨q, hpq, hq, hr⟩ := ih (p := p.mark (2 * i)) hp hr
    exact ⟨q.mark (2 * i + 1), hpq, hq, hr⟩
  | charRun greed lo hi t => exact matchCharRun_advances greed lo hi t
  | repeated greed lo hi body ih => exact matchRepeated_advances ih greed lo hi
  | ahead negated body ih =>
    -- the position is the one before, whatever the part has matched
    intro p k r hp hr
    rw [Node.run] at hr
    split at hr
    · next q _ =>
      split at hr
      · cases hr
      · exact ⟨q.moveTo p.pos, Nat.le_refl _, hp, hr⟩
    · split at hr
      · exact .here hp hr
      · cases hr
  | behind negated width body ih =>
    intro p k r hp hr
    rw [Node.run] at hr
    split at hr
    · next q _ =>
      split at hr
      · cases hr
      · exact ⟨q.moveTo p.pos, Nat.le_refl _, hp, hr⟩
    · split at hr
      · exact .here hp hr
      · cases hr
  | backref i mode =>
    intro p k r hp hr
    rw [Node.run] at hr
    split at hr
    · split at hr
      · next hfits =>
        rw [Bool.and_eq_true, decide_eq_true_eq] at hfits
        exact ⟨_, Nat.le_add_right _ _, hfits.1, hr⟩
      · cases hr
    · cases hr
  | cond i yes no ihyes ihno =>
    intro p k r hp hr
    rw [Node.run] at hr
    split at hr
    · exact ihyes hp hr
    · exact ihno hp hr
  | atomic body ih =>
    intro p k r hp hr
    rw [Node.run] at hr
    split at hr
    · next q hbody =>
      obtain ⟨q', hpq, hq, hqq⟩ := ih hp hbody
      cases hqq
      exact ⟨q, hpq, hq, hr⟩
    · cases hr

end

/-- **Static text is required.**  If literal code points stand before and behind other nodes between
the anchors for the beginning and the end, a text that is matched over its full span has them at its
beginning and its end. -/
theorem literals_of_matchesSpan {pattern a b line : Text} {ns : List Node}
    (h : (Regex.mk pattern (Node.ofList (.anchor .textStart ::
      (a.map (fun c => Node.char (.literal .exact c)) ++ (ns ++
        (b.map (fun c => Node.char (.literal .exact c)) ++ [Node.anchor .textEnd])))))).matchesSpan
          line = true) :
    ∃ between, line = a ++ between ++ b := by
  rw [matchesSpan_iff] at h
  unfold Node.matchFrom at h
  rw [run_ofList_cons, Node.run] at h
  simp only [Anchor.holds, beq_self_eq_true, if_true, run_ofList_append] at h
  obtain ⟨r, hr, -⟩ := Option.map_eq_some_iff.mp h
  obtain ⟨piece, rest, hline, rfl, hbehind⟩ := (covers_literals a).sound hr
  have hline : line = piece ++ rest := hline
  have hsize : 0 + piece.length ≤ line.toArray.size := by
    rw [Nat.zero_add, List.size_toArray, hline, List.length_append]
    exact Nat.le_add_right _ _
  obtain ⟨q, hpq, -, hlast⟩ := (Node.ofList ns).run_advances hsize hbehind
  obtain ⟨piece', rest', hend, rfl, hanchor⟩ := (covers_literals b).sound hlast
  have hrest' : rest' = [] := by
    rw [Node.ofList, Node.run] at hanchor
    split at hanchor
    · next hholds =>
      have hpos : q.pos + piece'.length = line.length := by
        simpa [Anchor.holds, Progress.moveTo] using hholds
      have hlen := congrArg List.length hend
      rw [List.length_drop, List.length_append] at hlen
      exact List.length_eq_zero_iff.mp (by omega)
    · cases hanchor
  have hpq : piece.length ≤ q.pos := Nat.zero_add piece.length ▸ hpq
  have hdrop : rest.drop (q.pos - piece.length) = piece' := by
    rw [hrest', List.append_nil, hline] at hend
    rw [← hend, List.drop_append, List.drop_of_length_le hpq, List.nil_append]
  refine ⟨rest.take (q.pos - piece.length), ?_⟩
  rw [List.append_assoc, ← hdrop, List.take_append_drop, hline]

end LineSift.Regex
