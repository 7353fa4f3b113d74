import LineSift.Proofs.Regex.Order
import LineSift.Proofs.Value.Listed

/-!
# The elements of a list as matches of a pattern

A list can be split with a pattern.  A match takes the white space in front of an element, the
element, the white space behind it, and the comma or the end of the list (`itemPattern`).  A string
in quotes is matched up to the quote behind which it is cut (`run_quoted`, `run_raw`).  Where it has
no such quote, or something else than a comma or the end behind it, the last alternative takes what
stands before the next comma, and that never fails (`run_plain`).  So the pattern finds the first
element at every position (`run_item`), and a loop that goes on from match to match needs one match
for each comma and one more (`split_by_matches`).
-/

namespace LineSift.Value

open Regex (CharTest Progress Cont)
open Text (ofString White)

/-! ## The pattern -/

/-- The pattern for an element of a list with the comma or the end behind it, and the white space
before both. -/
def itemPattern : Text :=
  ofString "(?s)\\s*(\"(?:\\\\.|[^\"\\\\])*\"|'(?:\\\\.|[^'\\\\])*'|`[^`]*`|[^,]*?)\\s*(,|\\Z)"

/-- Admits every code point but some. -/
def noneOf (cs : List CodePoint) : CharTest := ⟨cs.map .single, true, .exact⟩

/-- One code point. -/
def literal (c : CodePoint) : Regex.Node := .char (.literal .exact c)

/-- White space, as much as there is. -/
def spaces : Regex.Node := .charRun .greedy 0 none (.ofCategory .space false false)

/-- A backslash and what it protects, or another code point than the quote. -/
def unit (q : CodePoint) : Regex.Node :=
  .alt (.seq (literal '\\') (.char .all)) (.char (noneOf [q, .char '\\']))

/-- A string between quotes in which backslashes protect. -/
def quoted (q : CodePoint) : Regex.Node :=
  .seq (literal q) (.seq (.repeated .greedy 0 none (unit q)) (literal q))

/-- A string between backticks. -/
def raw : Regex.Node :=
  .seq (literal '`') (.seq (.charRun .greedy 0 none (noneOf ['`'])) (literal '`'))

/-- As little as possible without commas. -/
def plain : Regex.Node := .charRun .lazy 0 none (noneOf [','])

/-- What stands behind an element. -/
def separator : Regex.Node := .group 2 (.alt (literal ',') (.anchor .textEnd))

/-- What the pattern means. -/
def itemNode : Regex.Node :=
  .seq spaces (.seq (.group 1 (.alt (quoted '"') (.alt (quoted '\'') (.alt raw plain))))
    (.seq spaces separator))

/-- The pattern compiled. -/
def itemRegex : Regex := ⟨itemPattern, itemNode⟩

theorem compile_itemPattern : Regex.compile itemPattern = .ok itemRegex := by decide +kernel

/-! ## Single code points -/

theorem head?_drop_of_lt_takeWhile {f : CodePoint → Bool} {u : Text} {i : Nat}
    (hi : i < (u.takeWhile f).length) : ∃ c, (u.drop i).head? = some c ∧ f c = true := by
  refine ⟨(u.takeWhile f)[i], ?_, List.mem_takeWhile_imp (List.getElem_mem hi)⟩
  rw [List.head?_drop, (List.takeWhile_prefix f).getElem hi, List.getElem?_eq_getElem]

theorem drop_length_takeWhile (f : CodePoint → Bool) (u : Text) :
    u.drop (u.takeWhile f).length = u.dropWhile f := by
  calc u.drop (u.takeWhile f).length
      = (u.takeWhile f ++ u.dropWhile f).drop (u.takeWhile f).length := by
        rw [List.takeWhile_append_dropWhile]
    _ = u.dropWhile f := List.drop_left

theorem eq_of_dropWhile {q c : CodePoint} {u rest : Text} (h : u.dropWhile (· != q) = c :: rest) :
    c = q := by
  have hhead := List.head?_dropWhile_not (· != q) u
  rw [h] at hhead
  simpa using hhead

theorem test_noneOf (cs : List CodePoint) (c : CodePoint) : (noneOf cs).test c = true ↔ c ∉ cs := by
  simp only [noneOf, CharTest.test, List.any_map, bne_iff_ne, ne_eq, List.any_eq_true, not_exists]
  grind [Regex.SetItem.test]

theorem test_noneOf_single (q : CodePoint) : (noneOf [q]).test = (· != q) := by
  funext c
  rw [Bool.eq_iff_iff, test_noneOf, List.mem_singleton, bne_iff_ne]

theorem test_space : (CharTest.ofCategory .space false false).test = CodePoint.isSpace := by
  funext c
  simp [CharTest.ofCategory, CharTest.test, Regex.SetItem.test, Regex.Category.test]

variable {line : Text}

theorem drop_next {c : CodePoint} {u : Text} {i : Nat} (h : line.drop i = c :: u) :
    line.drop (i + 1) = u := by
  rw [List.drop_add_one_eq_tail_drop, h, List.tail_cons]

theorem run_literal_self {c : CodePoint} {p : Progress} {u : Text} (h : line.drop p.pos = c :: u)
    (k : Cont) : (literal c).run line.toArray p k = k (p.moveTo (p.pos + 1)) := by
  rw [literal, Regex.run_char_cons _ h, if_pos]
  simp [CharTest.literal, CharTest.test, Regex.SetItem.test]

theorem run_literal_other {c : CodePoint} {p : Progress} (h : (line.drop p.pos).head? ≠ some c)
    (k : Cont) : (literal c).run line.toArray p k = none := by
  cases hd : line.drop p.pos with
  | nil => exact Regex.run_char_nil _ hd k
  | cons d u =>
    have hdc : d ≠ c := fun heq => h (by rw [hd, heq]; rfl)
    rw [literal, Regex.run_char_cons _ hd, if_neg]
    simpa [CharTest.literal, CharTest.test, Regex.SetItem.test] using hdc

/-! ## Strings in quotes -/

section Quoted

variable {q : CodePoint} {p : Progress} {u : Text}

theorem run_unit_eq (k : Cont) : (unit q).run line.toArray p k =
    ((literal '\\').run line.toArray p fun r => (Regex.Node.char .all).run line.toArray r k).or
      ((Regex.Node.char (noneOf [q, .char '\\'])).run line.toArray p k) := by
  rw [unit, Regex.run_alt]
  rfl

/-- There is no unit at the end, nor where the quote stands, and a backslash needs a partner. -/
theorem run_unit_none (hq : q ≠ .char '\\')
    (h : line.drop p.pos = [] ∨ line.drop p.pos = [.char '\\'] ∨
    (line.drop p.pos).head? = some q) (k : Cont) : (unit q).run line.toArray p k = none := by
  rw [run_unit_eq]
  rcases h with h | h | h
  · rw [run_literal_other (by simp [h]), Regex.run_char_nil _ h]
    rfl
  · have hend : line.drop (p.moveTo (p.pos + 1)).pos = [] := drop_next h
    rw [run_literal_self h, Regex.run_char_nil _ hend, Regex.run_char_cons _ h, if_neg]
    · rfl
    · simp [test_noneOf]
  · obtain ⟨u, hu⟩ := List.head?_eq_some_iff.mp h
    rw [run_literal_other (by simpa [h] using hq), Regex.run_char_cons _ hu, if_neg]
    · rfl
    · simp [test_noneOf]

theorem run_unit_pair {c : CodePoint} (h : line.drop p.pos = .char '\\' :: c :: u) (k : Cont) :
    (unit q).run line.toArray p k = k (p.moveTo (p.pos + 2)) := by
  have hnext : line.drop (p.moveTo (p.pos + 1)).pos = c :: u := drop_next h
  rw [run_unit_eq, run_literal_self h, Regex.run_char_cons _ hnext, if_pos (by rfl),
    Regex.run_char_cons _ h, if_neg (by simp [test_noneOf]), Option.or_none]
  rfl

theorem run_unit_plain {c : CodePoint} (h : line.drop p.pos = c :: u) (hq : c ≠ q)
    (hc : c ≠ .char '\\') (k : Cont) :
    (unit q).run line.toArray p k = k (p.moveTo (p.pos + 1)) := by
  rw [run_unit_eq, run_literal_other (by simpa [h] using hc), Regex.run_char_cons _ h, if_pos,
    Option.none_or]
  simp [test_noneOf, hq, hc]

/-- Matches up to `n` units, as many as possible, and the quote behind them. -/
def matchUnits (line : Text) (q : CodePoint) (n : Nat) (p : Progress) (k : Cont) :
    Option Progress :=
  Regex.matchMany (fun r k' => (unit q).run line.toArray r k') n p
    fun r => (literal q).run line.toArray r k

theorem matchUnits_stop (hq : q ≠ .char '\\') (h : line.drop p.pos = [] ∨
    line.drop p.pos = [.char '\\'] ∨ (line.drop p.pos).head? = some q) (n : Nat) (k : Cont) :
    matchUnits line q n p k = (literal q).run line.toArray p k := by
  cases n with
  | zero => rfl
  | succ n => rw [matchUnits, Regex.matchMany, run_unit_none hq h]

/-- A unit that stands at a position is taken, because the quote does not stand there. -/
theorem matchUnits_go {i : Nat} (hi : 0 < i) (h : (line.drop p.pos).head? ≠ some q)
    (hunit : ∀ k, (unit q).run line.toArray p k = k (p.moveTo (p.pos + i))) (n : Nat) (k : Cont) :
    matchUnits line q (n + 1) p k = matchUnits line q n (p.moveTo (p.pos + i)) k := by
  have hmoved : (p.moveTo (p.pos + i)).pos ≠ p.pos := by
    simp only [Progress.moveTo]
    omega
  rw [matchUnits, Regex.matchMany, hunit, run_literal_other h, if_neg hmoved, ← matchUnits]
  cases matchUnits line q n (p.moveTo (p.pos + i)) k <;> rfl

/-- The units of a string are taken up to the quote that ends it. -/
theorem matchUnits_eq (hq : q ≠ .char '\\') (k : Cont) {n : Nat} (hn : u.length ≤ n)
    (h : line.drop p.pos = u) :
    matchUnits line q n p k =
      (cutAtQuote q u).bind fun c => k (p.moveTo (p.pos + c.1.length)) := by
  fun_induction cutAtQuote q u generalizing n p with
  | case1 =>
    rw [matchUnits_stop hq (.inl h), run_literal_other (by simp [h])]
    rfl
  | case2 =>
    rw [matchUnits_stop hq (.inr (.inr (by simp [h]))), run_literal_self h]
    rfl
  | case3 c hc =>
    have hhead : (line.drop p.pos).head? ≠ some q := by simpa [h] using hc
    by_cases hslash : c = .char '\\'
    · rw [matchUnits_stop hq (.inr (.inl (hslash ▸ h))), run_literal_other hhead]
      rfl
    · obtain ⟨n, rfl⟩ := Nat.exists_eq_add_of_le' hn
      have hend : line.drop (p.moveTo (p.pos + 1)).pos = [] := drop_next h
      rw [List.length_singleton, matchUnits_go Nat.one_pos hhead (run_unit_plain h hc hslash),
        matchUnits_stop hq (.inl hend), run_literal_other (by simp [hend])]
      rfl
  | case4 d t =>
    rw [matchUnits_stop hq (.inr (.inr (by simp [h]))), run_literal_self h]
    rfl
  | case5 d t hc ih =>
    obtain ⟨n, rfl⟩ : ∃ m, n = m + 1 := ⟨n - 1, by simp at hn; omega⟩
    have hnext : line.drop (p.moveTo (p.pos + 2)).pos = t := drop_next (drop_next h)
    rw [matchUnits_go Nat.two_pos (by simpa [h] using hc) (run_unit_pair h),
      ih (by simp at hn; omega) hnext, Option.bind_map]
    simp only [Function.comp_def, Progress.moveTo_on, List.length_cons, Nat.add_comm 2]
  | case6 c d t hc hslash ih =>
    obtain ⟨n, rfl⟩ : ∃ m, n = m + 1 := ⟨n - 1, by simp at hn; omega⟩
    have hnext : line.drop (p.moveTo (p.pos + 1)).pos = d :: t := drop_next h
    rw [matchUnits_go Nat.one_pos (by simpa [h] using hc) (run_unit_plain h hc hslash),
      ih (by simp at hn ⊢; omega) hnext, Option.bind_map]
    simp only [Function.comp_def, Progress.moveTo_on, List.length_cons, Nat.add_comm 1]

/-- A string in quotes is matched as it is cut off. -/
theorem run_quoted (hq : q ≠ .char '\\') (h : line.drop p.pos = q :: u) (k : Cont) :
    (quoted q).run line.toArray p k =
      (cutAtQuote q u).bind fun c => k (p.moveTo (p.pos + (c.1.length + 1))) := by
  have hnext : line.drop (p.moveTo (p.pos + 1)).pos = u := drop_next h
  have hroom : u.length ≤ Regex.usefulRepeats line.toArray 0 none (p.moveTo (p.pos + 1)).pos := by
    rw [← hnext, List.length_drop, Regex.usefulRepeats, List.size_toArray]
    exact Nat.le_succ _
  have hunits := matchUnits_eq hq k hroom hnext
  simp only [Progress.moveTo_on, Nat.add_comm 1] at hunits
  rw [quoted, Regex.Node.run, run_literal_self h]
  exact hunits

theorem run_quoted_other (h : (line.drop p.pos).head? ≠ some q) (k : Cont) :
    (quoted q).run line.toArray p k = none := by
  rw [quoted, Regex.Node.run, run_literal_other h]

theorem cutAtBacktick_eq (u : Text) : cutAtBacktick u =
    match u.dropWhile (· != .char '`') with
    | [] => none
    | c :: rest => some (u.takeWhile (· != .char '`') ++ [c], rest) := by
  induction u with
  | nil => rfl
  | cons c u ih =>
    by_cases hc : c = .char '`'
    · simp [cutAtBacktick, hc]
    · simp only [cutAtBacktick, hc, if_false, ih, ne_eq, not_false_eq_true, bne_iff_ne,
        List.dropWhile_cons_of_pos, List.takeWhile_cons_of_pos]
      split <;> rfl

/-- So is a string between backticks: no shorter run has a backtick behind it. -/
theorem run_raw (h : line.drop p.pos = .char '`' :: u) (k : Cont) :
    raw.run line.toArray p k =
      (cutAtBacktick u).bind fun c => k (p.moveTo (p.pos + (c.1.length + 1))) := by
  have hnext : line.drop (p.moveTo (p.pos + 1)).pos = u := drop_next h
  have hplace (i : Nat) :
      line.drop ((p.moveTo (p.pos + 1)).moveTo ((p.moveTo (p.pos + 1)).pos + i)).pos =
        u.drop i := by
    rw [← hnext, List.drop_drop]
    rfl
  rw [raw, Regex.Node.run, run_literal_self h, Regex.Node.run, Regex.run_greedy, hnext,
    test_noneOf_single, Regex.tryDown_of_fewer]
  · rw [cutAtBacktick_eq]
    have hbehind := hplace (u.takeWhile (· != .char '`')).length
    rw [drop_length_takeWhile] at hbehind
    split
    · next hnil =>
      rw [run_literal_other (by simp [hbehind, hnil])]
      rfl
    · next c rest hcons =>
      obtain rfl : c = .char '`' := eq_of_dropWhile hcons
      rw [run_literal_self (hbehind.trans hcons), Option.bind_some, Progress.moveTo_on,
        Progress.moveTo_on, List.length_append, List.length_singleton, Nat.add_comm 1]
  · intro i hi
    obtain ⟨c, hhead, hc⟩ := head?_drop_of_lt_takeWhile hi
    refine run_literal_other ?_ k
    rw [hplace, hhead]
    simpa using hc

theorem run_raw_other (h : (line.drop p.pos).head? ≠ some (.char '`')) (k : Cont) :
    raw.run line.toArray p k = none := by
  rw [raw, Regex.Node.run, run_literal_other h]

end Quoted

/-! ## What stands behind an element -/

/-- Where a match ends behind an element with the text `t` behind it. -/
def finish (p : Progress) (t : Text) : AfterElement → Progress
  | .last => ((p.moveTo (p.pos + t.length)).mark 4).mark 5
  | .more rest =>
    (((p.moveTo (p.pos + (t.length - (rest.length + 1)))).mark 4).moveTo
      (p.pos + (t.length - rest.length))).mark 5

section Behind

variable {p : Progress} {t : Text}

theorem run_separator_comma {u : Text} (h : line.drop p.pos = .char ',' :: u) :
    separator.run line.toArray p some = some (((p.mark 4).moveTo (p.pos + 1)).mark 5) := by
  have hcomma := run_literal_self (p := p.mark 4) h fun r => some (r.mark 5)
  rw [separator, Regex.Node.run, Regex.run_alt]
  exact congrArg (Option.or · _) hcomma

theorem run_separator_end (h : p.pos = line.length) :
    separator.run line.toArray p some = some ((p.mark 4).mark 5) := by
  have hnil : line.drop (p.mark 4).pos = [] := by
    rw [Progress.mark, h, List.drop_length]
  have hend : Regex.Anchor.textEnd.holds line.toArray (p.mark 4).pos = true := by
    simp [Regex.Anchor.holds, Progress.mark, h]
  rw [separator, Regex.Node.run, Regex.run_alt, run_literal_other (by simp [hnil]), Option.none_or,
    Regex.Node.run, if_pos hend]

theorem run_separator_other {c : CodePoint} (h : (line.drop p.pos).head? = some c)
    (hc : c ≠ .char ',') : separator.run line.toArray p some = none := by
  have hother : (line.drop (p.mark 4).pos).head? ≠ some (.char ',') := by
    rw [Progress.mark, h]
    simpa using hc
  have hend : ¬ Regex.Anchor.textEnd.holds line.toArray (p.mark 4).pos = true := by
    intro hend
    have hpos : p.pos = line.length := by simpa [Regex.Anchor.holds, Progress.mark] using hend
    rw [hpos, List.drop_length] at h
    cases h
  rw [separator, Regex.Node.run, Regex.run_alt, run_literal_other hother, Option.none_or,
    Regex.Node.run, if_neg hend]

/-- Behind an element the pattern finds what the reader of elements finds: no shorter white space
has a comma or the end behind it. -/
theorem run_after (hpos : p.pos ≤ line.length) (h : line.drop p.pos = t) :
    (Regex.Node.seq spaces separator).run line.toArray p some =
      (afterElement? t).map (finish p t) := by
  have hplace (i : Nat) : line.drop (p.moveTo (p.pos + i)).pos = t.drop i := by
    rw [← h, List.drop_drop]
    rfl
  have hbehind := hplace (t.takeWhile CodePoint.isSpace).length
  have hlength := congrArg List.length h
  have hwhole :=
    congrArg List.length (List.takeWhile_append_dropWhile (p := CodePoint.isSpace) (l := t))
  rw [List.length_append] at hwhole
  rw [List.length_drop] at hlength
  rw [drop_length_takeWhile] at hbehind
  rw [Regex.Node.run, spaces, Regex.run_greedy, h, test_space, Regex.tryDown_of_fewer,
    afterElement?, Text.stripLeft]
  · cases hrest : t.dropWhile CodePoint.isSpace with
    | nil =>
      rw [hrest] at hwhole hbehind
      have hend : (p.moveTo (p.pos + (t.takeWhile CodePoint.isSpace).length)).pos =
          line.length := by
        simp only [Progress.moveTo, List.length_nil] at hwhole ⊢
        omega
      have hall : (t.takeWhile CodePoint.isSpace).length = t.length := hwhole
      rw [run_separator_end hend, hall]
      rfl
    | cons c rest =>
      rw [hrest] at hwhole hbehind
      by_cases hc : c = .char ','
      · subst hc
        rw [List.length_cons] at hwhole
        have hbefore : (t.takeWhile CodePoint.isSpace).length =
            t.length - (rest.length + 1) := by omega
        have hend : t.length - (rest.length + 1) + 1 = t.length - rest.length := by omega
        rw [run_separator_comma hbehind, hbefore]
        simp only [if_true, Option.map_some, finish, Progress.moveTo, Nat.add_assoc, hend]
      · rw [run_separator_other (c := c) (by rw [hbehind]; rfl) hc]
        simp only [if_neg hc, Option.map_none]
  · intro i hi
    obtain ⟨c, hhead, hc⟩ := head?_drop_of_lt_takeWhile hi
    refine run_separator_other (c := c) (by rw [hplace, hhead]) ?_
    rintro rfl
    exact absurd hc (by decide)

end Behind

/-! ## Elements -/

theorem cutAtQuote_parts {q : CodePoint} {t a b : Text} (h : cutAtQuote q t = some (a, b)) :
    t = a ++ b := by
  fun_induction cutAtQuote q t generalizing a b with
  | case1 => cases h
  | case2 =>
    cases h
    rfl
  | case3 => cases h
  | case4 =>
    cases h
    rfl
  | case5 d t _ ih =>
    obtain ⟨⟨a', b'⟩, hcut, hab⟩ := Option.map_eq_some_iff.mp h
    cases hab
    rw [ih hcut]
    rfl
  | case6 c d t _ _ ih =>
    obtain ⟨⟨a', b'⟩, hcut, hab⟩ := Option.map_eq_some_iff.mp h
    cases hab
    rw [ih hcut]
    rfl

theorem cutAtBacktick_parts {t a b : Text} (h : cutAtBacktick t = some (a, b)) : t = a ++ b := by
  have hwhole := List.takeWhile_append_dropWhile (p := (· != .char '`')) (l := t)
  rw [cutAtBacktick_eq] at h
  split at h
  · cases h
  · next c rest hcons =>
    cases h
    rw [hcons] at hwhole
    rw [List.append_assoc, List.singleton_append, hwhole]

/-- Every text begins with an element without quotes, up to the comma or the end. -/
theorem exists_plain (u : Text) : ∃ e t after, u = e ++ t ∧ .char ',' ∉ e ∧ e.stripRight = e ∧
    afterElement? t = some after := by
  obtain ⟨g, hg, hw⟩ := Text.exists_stripRight (u.takeWhile (· != .char ','))
  have hcomma : .char ',' ∉ Text.stripRight (u.takeWhile (· != .char ',')) := fun hmem => by
    have hrun : .char ',' ∈ u.takeWhile (· != .char ',') := hw ▸ List.mem_append_left g hmem
    exact absurd (List.mem_takeWhile_imp (p := (· != CodePoint.char ',')) hrun) (by decide)
  have hwhole : u.takeWhile (· != .char ',') ++ u.dropWhile (· != .char ',') = u :=
    List.takeWhile_append_dropWhile
  cases hrest : u.dropWhile (· != .char ',') with
  | nil =>
    refine ⟨_, g, .last, ?_, hcomma, Text.stripRight_stripRight _, afterElement?_white hg⟩
    rw [hrest, List.append_nil] at hwhole
    exact hwhole.symm.trans hw
  | cons c rest =>
    obtain rfl : c = .char ',' := eq_of_dropWhile hrest
    refine ⟨_, g ++ .char ',' :: rest, .more rest, ?_, hcomma, Text.stripRight_stripRight _,
      afterElement?_comma hg rest⟩
    rw [← List.append_assoc, ← hw, ← hrest, hwhole]

/-- Nothing but the end of such an element has white space and a comma or the end behind it. -/
theorem afterElement?_within {e : Text} (hcomma : .char ',' ∉ e)
    (hright : e.stripRight = e) {i : Nat}
    (hi : i < e.length) (t : Text) : afterElement? ((e ++ t).drop i) = none := by
  have hdrop : (e ++ t).drop i = e.drop i ++ t := List.drop_append_of_le_length (Nat.le_of_lt hi)
  have hne : e.drop i ≠ [] := fun hnil => absurd (List.drop_eq_nil_iff.mp hnil) (Nat.not_le.mpr hi)
  -- What is left of the element is not white space alone, because its last code point is not.
  have hleft : Text.stripLeft (e.drop i) ≠ [] := by
    intro hnil
    have hlast := Text.stripLeft_eq_nil.mp hnil _ (List.getLast_mem hne)
    have hspace : ((e.drop i).getLast hne).isSpace = false := by
      refine Text.isSpace_of_mem_getLast?_stripRight (t := e) ?_
      have hend : (e.drop i).getLast? = e.getLast? := by
        rw [List.getLast?_drop, if_neg (Nat.not_le.mpr hi)]
      rw [hright, ← hend]
      exact List.getLast?_eq_some_getLast hne
    rw [hlast] at hspace
    cases hspace
  obtain ⟨c, rest, hcons⟩ := List.exists_cons_of_ne_nil hleft
  have hc : c ≠ .char ',' := by
    rintro rfl
    refine hcomma (List.mem_of_mem_drop (i := i) ?_)
    exact (List.dropWhile_sublist _).mem (hcons ▸ List.mem_cons_self)
  have hstrip : Text.stripLeft (e.drop i ++ t) = c :: (rest ++ t) := by
    rw [Text.stripLeft, List.dropWhile_append, ← Text.stripLeft, hcons]
    rfl
  simp only [hdrop, afterElement?, hstrip, if_neg hc]

/-! ## The first element -/

/-- Matches what stands behind an element whose end is where a match has come to. -/
def matchAfter (line : Text) (p : Progress) : Option Progress :=
  (Regex.Node.seq spaces separator).run line.toArray (p.mark 3) some

/-- Where a match ends that takes an element at a position with the text `u` behind it. -/
def ended (p : Progress) (u : Text) (found : Text × AfterElement) : Progress :=
  finish ((p.moveTo (p.pos + found.1.length)).mark 3) (u.drop found.1.length) found.2

section Element

variable {p : Progress} {u : Text}

theorem matchAfter_eq (hpos : p.pos ≤ line.length) (h : line.drop p.pos = u) {i : Nat}
    (hi : i ≤ u.length) : matchAfter line (p.moveTo (p.pos + i)) =
      (afterElement? (u.drop i)).map (finish ((p.moveTo (p.pos + i)).mark 3) (u.drop i)) := by
  have hlength := congrArg List.length h
  rw [List.length_drop] at hlength
  refine run_after (p := (p.moveTo (p.pos + i)).mark 3) ?_ ?_
  · simp only [Progress.mark, Progress.moveTo]
    omega
  · rw [← h, List.drop_drop]
    rfl

/-- The element of a cut is taken if a comma or the end follows. -/
theorem bind_matchAfter (hpos : p.pos ≤ line.length) {q : CodePoint} (h : line.drop p.pos = q :: u)
    {cut : Option (Text × Text)} (hcut : ∀ {a b : Text}, cut = some (a, b) → u = a ++ b) :
    (cut.bind fun c => matchAfter line (p.moveTo (p.pos + (c.1.length + 1)))) =
      (cut.bind fun (inner, rest) => (afterElement? rest).map fun after => (q :: inner, after)).map
        (ended p (q :: u)) := by
  cases hc : cut with
  | none => rfl
  | some c =>
    obtain ⟨inner, rest⟩ := c
    obtain rfl := hcut hc
    have hdrop : (q :: (inner ++ rest)).drop (inner.length + 1) = rest := List.drop_left
    rw [Option.bind_some, matchAfter_eq hpos h (by simp), hdrop, Option.bind_some, Option.map_map]
    refine congrArg (Option.map · _) (funext fun after => ?_)
    simp only [Function.comp_apply, ended, List.length_cons, hdrop]

/-- The alternatives for elements in quotes find what the reader of such elements finds. -/
theorem run_quotes (hpos : p.pos ≤ line.length) (h : line.drop p.pos = u) :
    ((quoted '"').run line.toArray p (matchAfter line)).or
        (((quoted '\'').run line.toArray p (matchAfter line)).or
          (raw.run line.toArray p (matchAfter line))) =
      (quotedElement? u).map (ended p u) := by
  cases u with
  | nil =>
    have hnone (c : CodePoint) : (line.drop p.pos).head? ≠ some c := by simp [h]
    rw [run_quoted_other (hnone _), run_quoted_other (hnone _), run_raw_other (hnone _)]
    rfl
  | cons q u =>
    have hother {c : CodePoint} (hc : q ≠ c) : (line.drop p.pos).head? ≠ some c := by
      simpa [h] using hc
    by_cases hdouble : q = .char '"'
    · subst hdouble
      rw [run_quoted (by decide) h, run_quoted_other (hother (by decide)),
        run_raw_other (hother (by decide)), Option.or_none, Option.or_none,
        bind_matchAfter hpos h cutAtQuote_parts]
      rfl
    · rw [run_quoted_other (hother hdouble), Option.none_or]
      by_cases hsingle : q = .char '\''
      · subst hsingle
        rw [run_quoted (by decide) h, run_raw_other (hother (by decide)), Option.or_none,
          bind_matchAfter hpos h cutAtQuote_parts]
        rfl
      · rw [run_quoted_other (hother hsingle), Option.none_or]
        by_cases hraw : q = .char '`'
        · subst hraw
          rw [run_raw h, bind_matchAfter hpos h cutAtBacktick_parts]
          rfl
        · rw [run_raw_other (hother hraw), quotedElement?]
          simp [hdouble, hsingle, hraw]

/-- The last alternative takes an element up to the comma or the end, and always finds one. -/
theorem run_plain (hpos : p.pos ≤ line.length) (h : line.drop p.pos = u) :
    plain.run line.toArray p (matchAfter line) = some (ended p u (plainElement u)) := by
  obtain ⟨e, t, after, rfl, hcomma, hright, hafter⟩ := exists_plain u
  rw [plainElement_append hcomma hright hafter]
  refine (Regex.run_lazy _ p _).trans (Regex.tryUp_of_first (i := e.length) ?_ (fun j hj => ?_) ?_)
  · have hall : ∀ c ∈ e, (c != .char ',') = true := fun c hc =>
      bne_iff_ne.mpr (ne_of_mem_of_not_mem hc hcomma)
    rw [test_noneOf_single, h, List.takeWhile_append_of_pos hall, List.length_append]
    exact Nat.le_add_right _ _
  · rw [matchAfter_eq hpos h (by simp; omega), afterElement?_within hcomma hright hj]
    rfl
  · rw [matchAfter_eq hpos h (by simp), List.drop_left, hafter]
    simp only [Option.map_some, ended, List.drop_left]

/-- **The pattern finds the first element** of what stands behind a position, whatever
stands there. -/
theorem run_item (hpos : p.pos ≤ line.length) (h : line.drop p.pos = u) :
    itemNode.run line.toArray p some =
      some (ended ((p.moveTo (p.pos + (u.takeWhile CodePoint.isSpace).length)).mark 2) u.stripLeft
        (firstElement u)) := by
  have hlength := congrArg List.length h
  have hwhite := (List.takeWhile_sublist (l := u) CodePoint.isSpace).length_le
  rw [List.length_drop] at hlength
  rw [itemNode, Regex.Node.run, spaces, Regex.run_greedy, h, test_space]
  refine Regex.tryDown_of_most ?_
  let q := (p.moveTo (p.pos + (u.takeWhile CodePoint.isSpace).length)).mark 2
  have hqpos : q.pos ≤ line.length := by
    simp only [q, Progress.mark, Progress.moveTo]
    omega
  have hq : line.drop q.pos = u.stripLeft := by
    simp only [q, Progress.mark, Progress.moveTo]
    rw [← List.drop_drop, h, drop_length_takeWhile, Text.stripLeft]
  change (Regex.Node.alt (quoted '"') (.alt (quoted '\'') (.alt raw plain))).run line.toArray q
    (matchAfter line) = some (ended q u.stripLeft (firstElement u))
  have hquotes := run_quotes hqpos hq
  rw [Regex.run_alt, Regex.run_alt, Regex.run_alt, run_plain hqpos hq, firstElement]
  simp only [← Option.or_assoc] at hquotes ⊢
  rw [hquotes]
  cases quotedElement? u.stripLeft <;> rfl

end Element

/-! ## The match at a position -/

/-- The match of a pattern that begins at a position, with what its groups have matched. -/
def matchAt (r : Regex) (t : Text) (pos : Nat) : Option Progress :=
  r.node.run t.toArray ⟨pos, []⟩ some

/-- The text that a group has matched. -/
def group? (t : Text) (m : Progress) (index : Nat) : Option Text :=
  (m.span? index).map fun (a, b) => (t.drop a).take (b - a)

/-- What the first element has behind it. -/
theorem firstElement_parts (u : Text) : ∃ t, u.stripLeft = (firstElement u).1 ++ t ∧
    afterElement? t = some (firstElement u).2 := by
  cases hquoted : quotedElement? u.stripLeft with
  | none =>
    obtain ⟨e, t, after, hu, hcomma, hright, hafter⟩ := exists_plain u.stripLeft
    have hfirst : firstElement u = (e, after) := by
      rw [firstElement, hquoted, hu]
      exact plainElement_append hcomma hright hafter
    rw [hfirst]
    exact ⟨t, hu, hafter⟩
  | some found =>
    have hfirst : firstElement u = found := by
      rw [firstElement, hquoted]
      rfl
    rw [hfirst]
    cases hu : u.stripLeft with
    | nil =>
      rw [hu] at hquoted
      cases hquoted
    | cons q body =>
      rw [hu, quotedElement?] at hquoted
      obtain ⟨⟨inner, rest⟩, hcut, hmap⟩ := Option.bind_eq_some_iff.mp hquoted
      obtain ⟨after, hafter, rfl⟩ := Option.map_eq_some_iff.mp hmap
      have hbody : body = inner ++ rest := by
        split_ifs at hcut
        · exact cutAtQuote_parts hcut
        · exact cutAtBacktick_parts hcut
      exact ⟨rest, congrArg (List.cons q) hbody, hafter⟩

/-- What a match of the pattern at a position is: white space is followed by the element, which is
the first group, and then by white space again and by the separator, which is the second group.  The
separator is a comma, or it is empty and the match ends where the text ends. -/
structure FoundAt (body : Text) (pos : Nat) (m : Progress) (item separator : Text) : Prop where
  found : matchAt itemRegex body pos = some m
  first : group? body m 1 = some item
  second : group? body m 2 = some separator
  parts : ∃ g g', White g ∧ White g' ∧
    body.drop pos = g ++ (item ++ (g' ++ (separator ++ body.drop m.pos)))
  stop : (separator = [.char ','] ∧ pos < m.pos ∧ m.pos ≤ body.length) ∨
    (separator = [] ∧ m.pos = body.length)

/-- Where a match has its groups and its end. -/
def spanned (a b c d : Nat) : Progress := ⟨d, [(5, d), (4, c), (3, b), (2, a)]⟩

section Spanned

variable {a b c d : Nat} (t : Text)

theorem group?_first (h : a ≤ b) :
    group? t (spanned a b c d) 1 = some ((t.drop a).take (b - a)) := by
  simp [group?, spanned, Progress.span?, Progress.marked?, List.lookup_cons, h]

theorem group?_second (h : c ≤ d) :
    group? t (spanned a b c d) 2 = some ((t.drop c).take (d - c)) := by
  simp [group?, spanned, Progress.span?, Progress.marked?, List.lookup_cons, h]

end Spanned

section Found

variable {body item : Text} {pos : Nat}

/-- The match at a position ends behind the first element of what stands there. -/
theorem matchAt_itemRegex (hpos : pos ≤ body.length) {after : AfterElement}
    (h : firstElement (body.drop pos) = (item, after)) : ∃ g t, White g ∧
      body.drop pos = g ++ (item ++ t) ∧ afterElement? t = some after ∧
      matchAt itemRegex body pos = some (finish ⟨pos + g.length + item.length,
        [(3, pos + g.length + item.length), (2, pos + g.length)]⟩ t after) := by
  obtain ⟨t, hleft, hafter⟩ := firstElement_parts (body.drop pos)
  rw [h] at hleft hafter
  refine ⟨_, t, Text.white_takeWhile (body.drop pos), ?_, hafter, ?_⟩
  · rw [← hleft]
    exact List.takeWhile_append_dropWhile.symm
  · have hrun := run_item (p := ⟨pos, []⟩) hpos rfl
    rw [h, hleft] at hrun
    simp only [ended, List.drop_left] at hrun
    exact hrun

theorem exists_found_last (hpos : pos ≤ body.length)
    (h : firstElement (body.drop pos) = (item, .last)) : ∃ m, FoundAt body pos m item [] := by
  obtain ⟨g, t, hg, hbody, hafter, hmatch⟩ := matchAt_itemRegex hpos h
  obtain ⟨ht, -⟩ | ⟨_, _, -, -, hmore⟩ := afterElement?_eq_some hafter
  swap
  · cases hmore
  let m := spanned (pos + g.length) (pos + g.length + item.length)
    (pos + g.length + item.length + t.length) (pos + g.length + item.length + t.length)
  have hend : m.pos = body.length := by
    have hlength := congrArg List.length hbody
    simp only [List.length_drop, List.length_append] at hlength
    change pos + g.length + item.length + t.length = body.length
    omega
  refine ⟨m, hmatch, ?_, ?_, ⟨g, t, hg, ht, ?_⟩, .inr ⟨rfl, hend⟩⟩
  · rw [group?_first _ (Nat.le_add_right _ _), ← List.drop_drop, hbody, List.drop_left,
      Nat.add_sub_cancel_left, List.take_left]
  · rw [group?_second _ (Nat.le_refl _), Nat.sub_self, List.take_zero]
  · rw [hend, List.drop_length, hbody, List.append_nil, List.append_nil]

theorem exists_found_more (hpos : pos ≤ body.length) {rest : Text}
    (h : firstElement (body.drop pos) = (item, .more rest)) :
    ∃ m, FoundAt body pos m item [.char ','] ∧ body.drop m.pos = rest := by
  obtain ⟨g, t, hg, hbody, hafter, hmatch⟩ := matchAt_itemRegex hpos h
  obtain ⟨-, hlast⟩ | ⟨g', rest, hg', rfl, hrest⟩ := afterElement?_eq_some hafter
  · cases hlast
  cases hrest
  let m := spanned (pos + g.length) (pos + g.length + item.length)
    (pos + g.length + item.length + g'.length) (pos + g.length + item.length + (g'.length + 1))
  have hm : matchAt itemRegex body pos = some m := by
    have hbefore : (g' ++ .char ',' :: rest).length - (rest.length + 1) = g'.length := by simp
    have hend : (g' ++ .char ',' :: rest).length - rest.length = g'.length + 1 := by simp; omega
    simp only [finish, hbefore, hend] at hmatch
    exact hmatch
  have hitem : body.drop (pos + g.length) = item ++ (g' ++ .char ',' :: rest) := by
    rw [← List.drop_drop, hbody, List.drop_left]
  have hcomma : body.drop (pos + g.length + item.length + g'.length) = .char ',' :: rest := by
    rw [← List.drop_drop, ← List.drop_drop, hitem, List.drop_left, List.drop_left]
  have hdrop : body.drop m.pos = rest := drop_next hcomma
  refine ⟨m, ⟨hm, ?_, ?_, ⟨g, g', hg, hg', ?_⟩, .inl ⟨rfl, ?_, ?_⟩⟩, hdrop⟩
  · rw [group?_first _ (Nat.le_add_right _ _), hitem, Nat.add_sub_cancel_left, List.take_left]
  · rw [group?_second _ (by omega), hcomma]
    have hone : pos + g.length + item.length + (g'.length + 1) -
        (pos + g.length + item.length + g'.length) = 1 := by omega
    rw [hone]
    rfl
  · rw [hdrop]
    exact hbody
  · change pos < pos + g.length + item.length + (g'.length + 1)
    omega
  · have hlength := congrArg List.length hbody
    simp only [List.length_drop, List.length_append, List.length_cons] at hlength
    change pos + g.length + item.length + (g'.length + 1) ≤ body.length
    omega

end Found

/-! ## Match by match -/

/-- Unquotes the elements of a list from a position of its body on, match by match.  There is no
result if a match or one of its groups is missing, nor if `n` matches do not suffice. -/
def unquoteFrom (s body : Text) : Nat → Nat → Option (Except Error (List Text))
  | 0, _ => none
  | n + 1, pos =>
    if body.length < pos then some (.ok [])
    else do
      let m ← matchAt itemRegex body pos
      let item ← group? body m 1
      let separator ← group? body m 2
      if item = [] then some (.error (.emptyElement s))
      else
        match unquote item with
        | .error e => some (.error e)
        | .ok value =>
          if separator = [] then some (.ok [value])
          else (unquoteFrom s body n m.pos).map fun result => result.map (value :: ·)

/-- The values of a list, with at most one match more than there are commas between its brackets. -/
def unquoteByMatches (written : Text) : Option (Except Error (List Text)) :=
  let s := written.strip
  if s.length < 2 then some (.error (.shortList s))
  else if s.head? ≠ some (.char '[') ∨ s.getLast? ≠ some (.char ']') then some (.error (.notList s))
  else
    let body := s.tail.dropLast
    if Text.strip body = [] then some (.ok [])
    else unquoteFrom s body (body.count (.char ',') + 1) 0

theorem elements_last {u e : Text} (h : firstElement u = (e, .last)) : elements u = [e] := by
  rw [elements]
  split <;> simp_all

theorem elements_more {u e rest : Text} (h : firstElement u = (e, .more rest)) :
    elements u = e :: elements rest := by
  rw [elements]
  split <;> simp_all

/-- The value of an element of the list `s`. -/
def elementValue (s e : Text) : Except Error Text :=
  if e = [] then .error (.emptyElement s) else unquote e

section Loop

variable {s body item : Text} {pos : Nat} {m : Progress}

/-- One round of the loop, with the match that it finds. -/
theorem unquoteFrom_found {separator : Text} (h : FoundAt body pos m item separator)
    (hpos : pos ≤ body.length) (n : Nat) :
    unquoteFrom s body (n + 1) pos =
      match elementValue s item with
      | .error e => some (.error e)
      | .ok value =>
        if separator = [] then some (.ok [value])
        else (unquoteFrom s body n m.pos).map fun result => result.map (value :: ·) := by
  rw [unquoteFrom, if_neg (Nat.not_lt.mpr hpos), h.found, elementValue]
  simp only [Option.bind_eq_bind, Option.bind_some, h.first, h.second]
  split_ifs <;> rfl

/-- Every round but the last leaves a comma behind. -/
theorem FoundAt.count_lt (h : FoundAt body pos m item [.char ',']) :
    (body.drop m.pos).count (.char ',') < (body.drop pos).count (.char ',') := by
  obtain ⟨g, g', -, -, hparts⟩ := h.parts
  simp only [hparts, List.count_append, List.count_singleton_self]
  omega

/-- The loop yields the values of all elements, if it is given a round for each comma and
one more. -/
theorem unquoteFrom_eq {n : Nat} (hpos : pos ≤ body.length)
    (hn : (body.drop pos).count (.char ',') < n) :
    unquoteFrom s body n pos = some ((elements (body.drop pos)).mapM (elementValue s)) := by
  induction n generalizing pos with
  | zero => cases hn
  | succ n ih =>
    rcases hfirst : firstElement (body.drop pos) with ⟨e, after⟩
    cases after with
    | last =>
      obtain ⟨m, hfound⟩ := exists_found_last hpos hfirst
      rw [unquoteFrom_found hfound hpos, elements_last hfirst, List.mapM_cons, List.mapM_nil]
      cases elementValue s e <;> rfl
    | more rest =>
      obtain ⟨m, hfound, hrest⟩ := exists_found_more hpos hfirst
      have hcount := hfound.count_lt
      have hend : m.pos ≤ body.length := by
        obtain ⟨-, -, hle⟩ | ⟨hnil, -⟩ := hfound.stop
        · exact hle
        · cases hnil
      rw [unquoteFrom_found hfound hpos, elements_more hfirst, List.mapM_cons,
        ih hend (by omega), hrest]
      cases elementValue s e with
      | error _ => rfl
      | ok value => cases (elements rest).mapM (elementValue s) <;> rfl

theorem unquoteByMatches_eq (written : Text) :
    unquoteByMatches written = some (unquoteList written) := by
  simp only [unquoteByMatches, unquoteList]
  split_ifs
  · rfl
  · rfl
  · rfl
  · refine (unquoteFrom_eq (Nat.zero_le _) ?_).trans (by rw [List.drop_zero]; rfl)
    rw [List.drop_zero]
    exact Nat.lt_succ_self _

/-- Between the elements there is nothing but white space and the commas. -/
theorem elements_parts (body : Text) :
    ∃ g e, White g ∧ body = g ++ e ∧ Header.Elements White (elements body) e := by
  induction hlength : body.length using Nat.strong_induction_on generalizing body with
  | _ n ih =>
    rcases hfirst : firstElement body with ⟨e, after⟩
    obtain ⟨g, t, hg, hbody, hafter, -⟩ := matchAt_itemRegex (Nat.zero_le body.length) hfirst
    rw [List.drop_zero] at hbody
    obtain ⟨ht, rfl⟩ | ⟨g', rest, hg', rfl, rfl⟩ := afterElement?_eq_some hafter
    · exact ⟨g, e ++ t, hg, hbody, elements_last hfirst ▸ .last ht⟩
    · obtain ⟨g'', e', hg'', rfl, he⟩ :=
        ih rest.length (hlength ▸ firstElement_more hfirst) rest rfl
      exact ⟨g, _, hg, hbody, elements_more hfirst ▸ .more hg' hg'' he⟩

/-- **A list is split match by match.**  Wherever a match of the pattern is looked for, there is
one: it takes one element with the white space around it and the comma behind it, behind which it
ends, or it ends where the text ends.  So the loop that goes on from match to match always finds the
next one, needs at most one match more than there are commas, yields what the list yields, and
leaves out nothing but white space and commas. -/
theorem split_by_matches :
    Regex.compile itemPattern = .ok itemRegex ∧
    (∀ (body : Text) (pos : Nat), pos ≤ body.length →
      ∃ m item separator, FoundAt body pos m item separator) ∧
    (∀ written, unquoteByMatches written = some (unquoteList written)) ∧
    ∀ body, ∃ g e, White g ∧ body = g ++ e ∧ Header.Elements White (elements body) e := by
  refine ⟨compile_itemPattern, fun body pos hpos => ?_, unquoteByMatches_eq, elements_parts⟩
  rcases hfirst : firstElement (body.drop pos) with ⟨e, after⟩
  cases after with
  | last =>
    obtain ⟨m, hfound⟩ := exists_found_last hpos hfirst
    exact ⟨m, e, [], hfound⟩
  | more rest =>
    obtain ⟨m, hfound, -⟩ := exists_found_more hpos hfirst
    exact ⟨m, e, [.char ','], hfound⟩

end Loop

section Examples

/-- Quotes that are not closed, and a backslash at the end. -/
theorem split_by_matches_unclosed :
    4 ≤ (ofString "'a\\,\"b\\").length ∧
    (∃ m item separator, FoundAt (ofString "'a\\,\"b\\") 4 m item separator) ∧
    unquoteList (ofString "[a', b\\]") = .ok [ofString "a'", ofString "b\\"] := by
  refine ⟨by decide, split_by_matches.2.1 _ 4 (by decide), Option.some.inj ?_⟩
  rw [← split_by_matches.2.2.1]
  rfl

end Examples

end LineSift.Value
