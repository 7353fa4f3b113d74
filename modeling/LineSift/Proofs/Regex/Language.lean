import LineSift.Regex.Basic

/-!
# The texts that parts of a pattern match

A node that remembers nothing can be described by the texts it consumes: the rest of the match is
tried behind each of them that stands at the position, and nowhere else (`Covers`).  Whether there
is a match then does not depend on the order in which they are tried.  Single code points and greedy
runs of them are of this kind, and so are sequences of such nodes.  Between the anchors for the
beginning and the end of the text, a node of this kind matches the whole text just if the text is
one of its own (`matchesSpan_anchored`).
-/

namespace LineSift.Regex

/-- A node consumes the texts of a language.  If there is a match, one of them stands at the
position and the rest is matched behind it; and if the rest can be matched behind one of them that
stands at the position, there is a match. -/
structure Covers (line : Text) (n : Node) (language : Text → Prop) : Prop where
  sound {p : Progress} {k : Cont} {r : Progress} : n.run line.toArray p k = some r →
    ∃ piece rest, line.drop p.pos = piece ++ rest ∧ language piece ∧
      k (p.moveTo (p.pos + piece.length)) = some r
  complete {p : Progress} {k : Cont} {piece rest : Text} : line.drop p.pos = piece ++ rest →
    language piece → (k (p.moveTo (p.pos + piece.length))).isSome →
    (n.run line.toArray p k).isSome

/-- The texts of one language followed by those of another. -/
def followed (first second : Text → Prop) (t : Text) : Prop :=
  ∃ a b, t = a ++ b ∧ first a ∧ second b

variable {line : Text}

theorem getElem?_toArray_of_drop {line t : Text} {i : Nat} (h : line.drop i = t) :
    line.toArray[i]? = t.head? := by
  rw [List.getElem?_toArray, ← h, List.head?_drop]

theorem drop_add_of_drop {line piece rest : Text} {i : Nat} (h : line.drop i = piece ++ rest) :
    line.drop (i + piece.length) = rest := by
  rw [← List.drop_drop, h, List.drop_left]

/-! ## Single code points -/

theorem covers_empty : Covers line .empty (· = []) where
  sound := fun h => ⟨[], _, rfl, rfl, h⟩
  complete := by
    rintro p k piece rest _ rfl hk
    exact hk

theorem covers_char (t : CharTest) :
    Covers line (.char t) fun piece => ∃ c, piece = [c] ∧ t.test c = true where
  sound := by
    intro p k r h
    rw [Node.run] at h
    cases hd : line.drop p.pos with
    | nil =>
      rw [getElem?_toArray_of_drop hd] at h
      cases h
    | cons c rest =>
      rw [getElem?_toArray_of_drop hd] at h
      simp only [List.head?_cons] at h
      split at h
      · next ht => exact ⟨[c], rest, rfl, ⟨c, rfl, ht⟩, h⟩
      · cases h
  complete := by
    rintro p k piece rest hd ⟨c, rfl, ht⟩ hk
    rw [Node.run, getElem?_toArray_of_drop hd]
    simp only [List.singleton_append, List.head?_cons, ht, if_true]
    exact hk

/-! ## Runs of code points -/

/-- The run at a position is as long as it can be. -/
theorem runLength_eq (t : CharTest) {pos limit : Nat} {rest : Text} (hd : line.drop pos = rest)
    (hlimit : rest.length ≤ limit) :
    runLength line.toArray t pos limit = (rest.takeWhile t.test).length := by
  induction rest generalizing pos limit with
  | nil =>
    cases limit with
    | zero => rfl
    | succ limit =>
      rw [runLength, getElem?_toArray_of_drop hd]
      rfl
  | cons c rest ih =>
    cases limit with
    | zero => exact absurd hlimit (Nat.not_succ_le_zero _)
    | succ limit =>
      have hd' : line.drop (pos + 1) = rest := by
        rw [← List.drop_drop, hd]
        rfl
      rw [runLength, getElem?_toArray_of_drop hd]
      simp only [List.head?_cons, List.takeWhile_cons]
      split
      · rw [ih hd' (Nat.le_of_succ_le_succ hlimit)]
        rfl
      · rfl

theorem exists_of_tryDown {p : Progress} {k : Cont} {n : Nat} {r : Progress}
    (h : tryDown p k n = some r) : ∃ i, i ≤ n ∧ k (p.moveTo (p.pos + i)) = some r := by
  induction n with
  | zero => exact ⟨0, Nat.le_refl 0, h⟩
  | succ n ih =>
    rw [tryDown] at h
    split at h
    · next hk => exact ⟨n + 1, Nat.le_refl _, hk.trans h⟩
    · obtain ⟨i, hi, hk⟩ := ih h
      exact ⟨i, Nat.le_succ_of_le hi, hk⟩

theorem tryDown_isSome {p : Progress} {k : Cont} {n i : Nat} (hi : i ≤ n)
    (h : (k (p.moveTo (p.pos + i))).isSome) : (tryDown p k n).isSome := by
  induction n with
  | zero =>
    obtain rfl : i = 0 := Nat.le_zero.mp hi
    exact h
  | succ n ih =>
    rw [tryDown]
    split
    · rfl
    · next hk =>
      refine ih ?_
      rcases Nat.lt_or_eq_of_le hi with hlt | rfl
      · exact Nat.le_of_lt_succ hlt
      · rw [hk] at h
        cases h

theorem covers_greedy (lo : Nat) (t : CharTest) :
    Covers line (.charRun .greedy lo none t) fun piece =>
      lo ≤ piece.length ∧ ∀ c ∈ piece, t.test c = true where
  sound := by
    intro p k r h
    have hroom : (line.drop p.pos).length ≤ line.toArray.size - p.pos := by
      simp only [List.length_drop, List.size_toArray, Nat.le_refl]
    rw [Node.run, matchCharRun] at h
    rw [runLength_eq t rfl hroom] at h
    split at h
    · cases h
    · next hlo =>
      obtain ⟨i, hi, hk⟩ := exists_of_tryDown h
      have hle : lo + i ≤ ((line.drop p.pos).takeWhile t.test).length := by omega
      have hpre : (line.drop p.pos).take (lo + i) =
          ((line.drop p.pos).takeWhile t.test).take (lo + i) := by
        conv => lhs; rw [← List.takeWhile_append_dropWhile (p := t.test) (l := line.drop p.pos)]
        rw [List.take_append_of_le_length hle]
      have hlen : ((line.drop p.pos).take (lo + i)).length = lo + i := by
        rw [hpre, List.length_take, Nat.min_eq_left hle]
      refine ⟨(line.drop p.pos).take (lo + i), (line.drop p.pos).drop (lo + i),
        (List.take_append_drop _ _).symm, ⟨by omega, ?_⟩, ?_⟩
      · intro c hc
        rw [hpre] at hc
        exact List.all_eq_true.mp List.all_takeWhile c (List.mem_of_mem_take hc)
      · rw [hlen, ← hk]
        simp only [Progress.moveTo, Nat.add_assoc]
  complete := by
    rintro p k piece rest hd ⟨hlo, hall⟩ hk
    have hroom : (line.drop p.pos).length ≤ line.toArray.size - p.pos := by
      simp only [List.length_drop, List.size_toArray, Nat.le_refl]
    have hle : piece.length ≤ ((line.drop p.pos).takeWhile t.test).length := by
      rw [hd, List.takeWhile_append_of_pos hall, List.length_append]
      omega
    rw [Node.run, matchCharRun]
    rw [runLength_eq t rfl hroom, if_neg (by omega)]
    refine tryDown_isSome (i := piece.length - lo) (by omega) ?_
    have hpos : p.pos + lo + (piece.length - lo) = p.pos + piece.length := by omega
    simp only [Progress.moveTo, hpos]
    exact hk

/-! ## Sequences -/

theorem run_ofList_cons (s : Array CodePoint) (n : Node) (ns : List Node) (p : Progress)
    (k : Cont) :
    (Node.ofList (n :: ns)).run s p k = n.run s p fun q => (Node.ofList ns).run s q k := by
  cases ns with
  | nil => rfl
  | cons m ms => rfl

theorem run_ofList_append (s : Array CodePoint) (ns ms : List Node) (p : Progress) (k : Cont) :
    (Node.ofList (ns ++ ms)).run s p k =
      (Node.ofList ns).run s p fun q => (Node.ofList ms).run s q k := by
  induction ns generalizing p with
  | nil => rfl
  | cons n ns ih =>
    rw [List.cons_append, run_ofList_cons, run_ofList_cons]
    simp only [ih]

theorem covers_append {ns ms : List Node} {first second : Text → Prop}
    (hn : Covers line (Node.ofList ns) first) (hm : Covers line (Node.ofList ms) second) :
    Covers line (Node.ofList (ns ++ ms)) (followed first second) where
  sound := by
    intro p k r h
    rw [run_ofList_append] at h
    obtain ⟨a, rest, hd, ha, h⟩ := hn.sound h
    obtain ⟨b, rest', hd', hb, h⟩ := hm.sound h
    refine ⟨a ++ b, rest', ?_, ⟨a, b, rfl, ha, hb⟩, ?_⟩
    · rw [hd, List.append_assoc, ← hd', List.append_cancel_left_eq]
      exact (drop_add_of_drop hd).symm
    · rw [← h, List.length_append, ← Nat.add_assoc]
      rfl
  complete := by
    rintro p k _ rest hd ⟨a, b, rfl, ha, hb⟩ hk
    rw [List.append_assoc] at hd
    rw [run_ofList_append]
    refine hn.complete hd ha (hm.complete (drop_add_of_drop hd) hb ?_)
    rw [List.length_append, ← Nat.add_assoc] at hk
    exact hk

/-- The code points of a text, one after the other, match that text. -/
theorem covers_literals (t : Text) :
    Covers line (Node.ofList (t.map fun c => .char (.literal .exact c))) (· = t) := by
  induction t with
  | nil => exact covers_empty
  | cons c t ih =>
    have hc : Covers line (Node.ofList [.char (.literal .exact c)]) _ := covers_char _
    have h := covers_append hc ih
    have hlang :
        followed (fun piece => ∃ d, piece = [d] ∧ (CharTest.literal .exact c).test d = true)
        (· = t) = (· = c :: t) := by
      funext piece
      refine propext ⟨?_, ?_⟩
      · rintro ⟨a, b, rfl, ⟨d, rfl, hd⟩, rfl⟩
        have : d = c := by simpa [CharTest.test, CharTest.literal, SetItem.test] using hd
        rw [this]
        rfl
      · rintro rfl
        exact ⟨[c], t, rfl, ⟨c, rfl, by simp [CharTest.test, CharTest.literal, SetItem.test]⟩, rfl⟩
    rw [hlang] at h
    exact h

/-! ## Whole texts -/

/-- A match found from a later place does not begin at the beginning. -/
theorem le_of_searchFrom {n : Node} {s : Array CodePoint} {start left a b : Nat}
    (h : n.searchFrom s start left = some (a, b)) : start ≤ a := by
  induction left generalizing start with
  | zero =>
    rw [Node.searchFrom] at h
    obtain ⟨_, _, he⟩ := Option.map_eq_some_iff.mp h
    exact Nat.le_of_eq (congrArg Prod.fst he)
  | succ left ih =>
    rw [Node.searchFrom] at h
    split at h
    · cases h
      exact Nat.le_refl _
    · exact Nat.le_of_succ_le (ih h)

/-- The whole text is the leftmost match just if the match at the beginning ends at the end. -/
theorem matchesSpan_iff (r : Regex) (t : Text) :
    r.matchesSpan t = true ↔ r.node.matchFrom t.toArray 0 = some t.length := by
  have hsearch : r.search t = some (0, t.length) ↔
      r.node.matchFrom t.toArray 0 = some t.length := by
    unfold search Node.search
    cases hl : t.toArray.size with
    | zero =>
      rw [Node.searchFrom]
      cases r.node.matchFrom t.toArray 0 with
      | none => simp
      | some b => simp
    | succ left =>
      rw [Node.searchFrom]
      cases r.node.matchFrom t.toArray 0 with
      | some b => simp
      | none =>
        refine iff_of_false (fun h => ?_) (by simp)
        exact absurd (le_of_searchFrom h) (Nat.not_succ_le_zero 0)
  rw [matchesSpan, beq_iff_eq, hsearch]

/-- Nodes behind the anchor for the beginning match where the text begins with one of theirs. -/
theorem matchesStart_anchored (pattern : Text) {ns : List Node} {language : Text → Prop}
    {line : Text} (h : Covers line (Node.ofList ns) language) :
    (Regex.mk pattern (Node.ofList (.anchor .textStart :: ns))).matchesStart line = true ↔
      ∃ piece rest, line = piece ++ rest ∧ language piece := by
  unfold matchesStart Node.matchFrom
  rw [Option.isSome_map, run_ofList_cons, Node.run]
  simp only [Anchor.holds, beq_self_eq_true, if_true]
  constructor
  · intro hs
    obtain ⟨r, hr⟩ := Option.isSome_iff_exists.mp hs
    obtain ⟨piece, rest, hd, hp, -⟩ := h.sound hr
    exact ⟨piece, rest, hd, hp⟩
  · rintro ⟨piece, rest, hd, hp⟩
    have hd' : line.drop (Progress.mk 0 []).pos = piece ++ rest := hd
    exact h.complete hd' hp rfl

/-- **Nodes between the anchors** for the beginning and the end match a text over its full span just
if it is one of theirs. -/
theorem matchesSpan_anchored (pattern : Text) {ns : List Node} {language : Text → Prop}
    {line : Text} (h : Covers line (Node.ofList ns) language) :
    (Regex.mk pattern
      (Node.ofList (.anchor .textStart :: (ns ++ [Node.anchor .textEnd])))).matchesSpan
      line = true ↔ language line := by
  rw [matchesSpan_iff]
  unfold Node.matchFrom
  rw [run_ofList_cons, Node.run]
  simp only [Anchor.holds, beq_self_eq_true, if_true, run_ofList_append]
  constructor
  · intro hs
    obtain ⟨r, hr, -⟩ := Option.map_eq_some_iff.mp hs
    obtain ⟨piece, rest, hd, hp, hk⟩ := h.sound hr
    rw [Node.ofList, Node.run] at hk
    split at hk
    · next hend =>
      have hlen : piece.length = line.length := by
        simpa [Anchor.holds, Progress.moveTo] using hend
      have hline : line = piece ++ rest := hd
      have hrest : rest = [] := by
        have := congrArg List.length hline
        rw [List.length_append] at this
        exact List.length_eq_zero_iff.mp (by omega)
      rw [hline, hrest, List.append_nil]
      exact hp
    · cases hk
  · intro hp
    have hd : line.drop (Progress.mk 0 []).pos = line ++ [] := (List.append_nil line).symm
    have hend : Anchor.textEnd.holds line.toArray (0 + line.length) = true := by
      simp [Anchor.holds]
    have hsome :=
      h.complete (k := fun q => (Node.ofList [Node.anchor .textEnd]).run line.toArray q some)
      hd hp (by
        rw [Node.ofList, Node.run]
        simp only [Progress.moveTo, hend, if_true, Option.isSome_some])
    obtain ⟨r, hr⟩ := Option.isSome_iff_exists.mp hsome
    rw [hr, Option.map_some]
    -- whatever match is found, the anchor for the end has let it pass
    obtain ⟨piece, rest, -, -, hk⟩ := h.sound hr
    rw [Node.ofList, Node.run] at hk
    split at hk
    · next hend' =>
      cases hk
      simpa [Anchor.holds] using hend'
    · cases hk

end LineSift.Regex
