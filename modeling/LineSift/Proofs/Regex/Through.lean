import LineSift.Proofs.Regex.Nesting

/-!
# Through a pattern within a longer pattern

A sequence takes one token after the other, and each of them adds a part, repeats the last part, or
is the beginning of a comment (`part_cases`).  The second of two readers comes to the place where
the pattern of the first ends, with the same parts (`sequence_through`), if nothing at the end of
the pattern goes on in the tokens behind (`Sealed`).  Three things can go on there: a repetition can
become lazy or possessive, a number can take one more digit, and a brace can get the brace that
closes it.
-/

namespace LineSift.Regex.Parse

variable {α : Type} {more : List Token} {fuel fuel' : Nat}

/-! ## What groups give -/

/-- Tokens behind an opening parenthesis up to the end of a comment. -/
def IsComment (before after : List Token) : Prop :=
  ∃ body, before = .plain '?' :: .plain '#' :: (body ++ Token.plain ')' :: after) ∧
    .plain ')' ∉ body

/-- A step gives a part, and nothing only under a condition; it does not give flags. -/
def GivesItem (few : Prop) (f : Parse GroupResult) : Prop :=
  ∀ r g s, f r = .ok (g, s) → (∃ item, g = .item item) ∨ g = .nothing ∧ few

section

variable {few : Prop}

theorem GivesItem.bind {f : Parse α} {g : α → Parse GroupResult} (h : ∀ a, GivesItem few (g a)) :
    GivesItem few (f >>= g) := by
  intro r b s hr
  obtain ⟨a, r₁, -, hg⟩ := bind_ok hr
  exact h a _ _ _ hg

theorem Fails.givesItem {f : Parse GroupResult} (h : Fails f) : GivesItem few f :=
  fun _ _ _ hf => absurd hf (h _ _ _)

theorem givesItem_item (item : Item) : GivesItem few (pure (.item item)) := by
  intro r g s h
  cases h
  exact Or.inl ⟨item, rfl⟩

theorem givesItem_nothing (h : few) : GivesItem few (pure .nothing) := by
  intro r g s hr
  cases hr
  exact Or.inr ⟨rfl, h⟩

variable (flags : Flags) (start : Nat)

theorem givesItem_capture (name : Option Text) :
    GivesItem (fuel = 0) (capture fuel flags start name) := by
  cases fuel with
  | zero => exact givesItem_nothing rfl
  | succ fuel =>
    rw [capture]
    exact .bind fun _ => .bind fun _ => .bind fun _ => .bind fun _ => givesItem_item _

theorem givesItem_plainGroup : GivesItem (fuel = 0) (plainGroup fuel flags start) := by
  cases fuel with
  | zero => exact givesItem_nothing rfl
  | succ fuel =>
    rw [plainGroup]
    exact .bind fun _ => .bind fun _ => givesItem_item _

theorem givesItem_look (negated : Bool) : GivesItem (fuel = 0) (look fuel flags start negated) := by
  cases fuel with
  | zero => exact givesItem_nothing rfl
  | succ fuel =>
    rw [look]
    exact .bind fun _ => .bind fun _ => givesItem_item _

theorem givesItem_lookBehind (negated : Bool) :
    GivesItem (fuel = 0) (lookBehind fuel flags start negated) := by
  cases fuel with
  | zero => exact givesItem_nothing rfl
  | succ fuel =>
    rw [lookBehind]
    exact .bind fun _ => .bind fun _ => .bind fun _ => .bind fun _ => .bind fun _ => .bind fun _ =>
      givesItem_item _

theorem givesItem_conditional : GivesItem (fuel = 0) (conditional fuel flags start) := by
  cases fuel with
  | zero => exact givesItem_nothing rfl
  | succ fuel =>
    rw [conditional]
    refine .bind fun _ => .bind fun _ => .bind fun bar => ?_
    split
    · refine .bind fun _ => .bind fun _ => ?_
      dsimp only
      split
      · exact .bind fun _ => .bind fun _ => givesItem_item _
      · exact .bind fun _ => givesItem_item _
    · exact .bind fun _ => givesItem_item _

end

theorem skipComment_ok {start n : Nat} {r s : Reader} {u : Unit} (hn : r.rest.length < n)
    (h : skipComment start n r = .ok (u, s)) :
    ∃ body, r.rest = body ++ .plain ')' :: s.rest ∧ .plain ')' ∉ body := by
  induction n generalizing r with
  | zero => exact absurd hn (Nat.not_lt_zero _)
  | succ n ih =>
    rw [skipComment_succ] at h
    obtain ⟨o, r₁, hnext, h⟩ := bind_ok h
    rcases next_ok hnext with ⟨rfl, -, -⟩ | ⟨t, ts, pos, rfl, hrest, -, rfl⟩
    · exact absurd h (fails_failAt _ _ _ _ _)
    rw [hrest] at hn ⊢
    dsimp only [Option.elim_some] at h
    split at h
    · next hclose =>
      cases h
      exact ⟨[], by rw [hclose]; rfl, List.not_mem_nil⟩
    · next hgo =>
      obtain ⟨body, hbody, hmem⟩ := ih (Nat.lt_of_succ_lt_succ hn) h
      have hbody : ts = body ++ .plain ')' :: s.rest := hbody
      exact ⟨t :: body, by rw [hbody]; rfl, by simp [hmem, Ne.symm hgo]⟩

/-- A group that is not at the beginning of the pattern is a part, unless it is a comment. -/
theorem group_ok {flags : Flags} {start : Nat} {r s : Reader} {g : GroupResult} (hfuel : 2 ≤ fuel)
    (hgroup : group fuel false flags start r = .ok (g, s)) :
    (∃ item, g = .item item) ∨ g = .nothing ∧ IsComment r.rest s.rest := by
  obtain ⟨fuel, rfl⟩ := exists_succ (Nat.lt_of_lt_of_le (Nat.succ_pos _) hfuel)
  have hitem {f : Parse GroupResult} {r : Reader} (hf : GivesItem (fuel = 0) f)
      (h : f r = .ok (g, s)) : ∃ item, g = .item item :=
    (hf _ _ _ h).resolve_right fun hnothing => absurd hnothing.2 (by omega)
  rw [group] at hgroup
  obtain ⟨found, r₁, hfound, h⟩ := bind_ok hgroup
  rcases accept_ok hfound with ⟨rfl, -, rfl⟩ | ⟨ts, pos, rfl, hrest, -, rfl⟩
  · exact Or.inl (hitem (givesItem_capture _ _ _) h)
  obtain ⟨o, r₂, hnext, h⟩ := bind_ok h
  rcases next_ok hnext with ⟨rfl, -, -⟩ | ⟨t, ts', pos', rfl, hcons, -, rfl⟩
  · exact absurd h (fails_fail _ _ _ _ _)
  dsimp only at h hcons
  split at h
  case h_1 =>
    refine Or.inl (hitem (.bind fun o => ?_) h)
    cases o with
    | none => exact (fails_fail _ _).givesItem
    | some u =>
      dsimp only
      split
      · exact .bind fun _ => givesItem_capture _ _ _
      split
      · exact .bind fun _ => givesItem_item _
      · exact (fails_fail _ _).givesItem
  case h_2 => exact Or.inl (hitem (givesItem_plainGroup _ _) h)
  case h_3 =>
    obtain ⟨_, _, hget, h⟩ := bind_ok h
    cases hget
    obtain ⟨u, r₃, hskip, h⟩ := bind_ok h
    cases h
    obtain ⟨body, hbody, hmem⟩ := skipComment_ok (Nat.lt_succ_self _) hskip
    exact Or.inr ⟨rfl, body, by rw [hrest, hcons, ← hbody], hmem⟩
  case h_4 | h_5 => exact Or.inl (hitem (givesItem_look _ _ _) h)
  case h_6 =>
    refine Or.inl (hitem (.bind fun o => ?_) h)
    cases o with
    | none => exact (fails_fail _ _).givesItem
    | some u =>
      dsimp only
      split
      · exact givesItem_lookBehind _ _ _
      split
      · exact givesItem_lookBehind _ _ _
      · exact (fails_fail _ _).givesItem
  case h_7 => exact Or.inl (hitem (givesItem_conditional _ _) h)
  case h_8 => exact Or.inl (hitem (.bind fun _ => .bind fun _ => givesItem_item _) h)
  case h_9 =>
    refine Or.inl (hitem ?_ h)
    split
    · refine .bind fun change => ?_
      cases change with
      | whole _ => exact ((fails_failAt _ _).bind _).givesItem
      | forGroup _ _ => exact givesItem_plainGroup _ _
    · exact (fails_fail _ _).givesItem

/-! ## What one token does -/

/-- Tokens that begin with a repetition of the part before them, comments aside. -/
inductive BeginsRepetition : List Token → Prop
  | sign {c : CodePoint} {ts : List Token} : c = .char '*' ∨ c = .char '+' ∨ c = .char '?' →
      BeginsRepetition (.plain c :: ts)
  | bounds {us ts : List Token} : IsBounds us →
      BeginsRepetition (.plain '\x7b' :: (us ++ .plain '\x7d' :: ts))
  | comment {ts after : List Token} : IsComment ts after → BeginsRepetition after →
      BeginsRepetition (.plain '(' :: ts)

/-- What a token does to the parts before it: it adds a part, repeats the last part, or begins a
comment.  `before` are the tokens that it stands in front of, and `after` those that are left. -/
inductive Turns (t : Token) (before after : List Token) (read : List Item) : List Item → Prop
  | adds (item : Item) : Turns t before after read (item :: read)
  | repeats {item item' : Item} {others : List Item} : read = item :: others →
      BeginsRepetition (t :: before) → Turns t before after read (item' :: others)
  | skips : t = .plain '(' → IsComment before after → Turns t before after read read

theorem quantify_ok {start lo : Nat} {hi : Option Nat} {read items : List Item} {r s : Reader}
    (h : quantify start lo hi read r = .ok (items, s)) :
    ∃ item item' others, read = item :: others ∧ items = item' :: others := by
  cases read with
  | nil => exact absurd h (fails_failAt _ _ _ _ _)
  | cons item others =>
    unfold quantify at h
    dsimp only at h
    split at h
    · exact absurd h ((fails_failAt _ _).bind _ _ _ _)
    split at h
    · exact absurd h ((fails_failAt _ _).bind _ _ _ _)
    obtain ⟨lazy, r₁, -, h⟩ := bind_ok h
    split at h
    · cases h
      exact ⟨_, _, _, rfl, rfl⟩
    obtain ⟨possessive, r₂, -, h⟩ := bind_ok h
    split at h
    · cases h
      exact ⟨_, _, _, rfl, rfl⟩
    · cases h
      exact ⟨_, _, _, rfl, rfl⟩

/-- Bounds are found where they stand between braces. -/
theorem isBounds_of_between {r s : Reader} {lo : Nat} {hi : Option Nat}
    (h : bounds r = .ok (.between lo hi, s)) :
    ∃ us ts, r.rest = us ++ .plain '\x7d' :: ts ∧ IsBounds us := by
  rcases bounds_ok h with ⟨heq, -⟩ | ⟨hhead, lo', hi', r₁, ts, pos, hdigits, hrest, -, -⟩
  · cases heq
  · obtain ⟨us, hr, hus⟩ := boundDigits_ok hdigits
    refine ⟨us, ts, hrest ▸ hr, ?_, hus⟩
    rintro rfl
    rw [hr, hrest] at hhead
    exact hhead rfl

/-- **What one token does** in a sequence without flags, if it is not at the beginning of the
pattern. -/
theorem part_cases {read : List Item} {t : Token} {r s : Reader} {y : Flags × List Item}
    (hfuel : 2 ≤ fuel) (ht : t ≠ .dangling) (h : part fuel false [] read t r = .ok (y, s)) :
    y.1 = [] ∧ Turns t r.rest s.rest read y.2 := by
  have hsign {c : CodePoint} {start lo : Nat} {hi : Option Nat}
      (hc : c = .char '*' ∨ c = .char '+' ∨ c = .char '?')
      (h : (quantify start lo hi read >>= fun items => pure (([] : Flags), items)) r = .ok (y, s)) :
      y.1 = [] ∧ Turns (.plain c) r.rest s.rest read y.2 := by
    obtain ⟨items, r₁, hitems, h⟩ := bind_ok h
    cases h
    obtain ⟨item, item', others, rfl, rfl⟩ := quantify_ok hitems
    exact ⟨rfl, .repeats rfl (.sign hc)⟩
  unfold part at h
  simp only [List.contains_nil, Bool.false_and, Bool.false_eq_true, if_false] at h
  obtain ⟨r₀, _, hget, h⟩ := bind_ok h
  cases hget
  split at h
  case h_1 => exact absurd rfl ht
  case h_2 | h_3 =>
    obtain ⟨item, _, -, h⟩ := bind_ok h
    cases h
    exact ⟨rfl, .adds _⟩
  case h_7 => exact hsign (by simp) h
  case h_8 => exact hsign (by simp) h
  case h_9 => exact hsign (by simp) h
  case h_10 =>
    obtain ⟨b, r₁, hbounds, h⟩ := bind_ok h
    cases b with
    | literal =>
      cases h
      exact ⟨rfl, .adds _⟩
    | between lo hi =>
      obtain ⟨items, r₂, hitems, h⟩ := bind_ok h
      cases h
      obtain ⟨item, item', others, rfl, rfl⟩ := quantify_ok hitems
      obtain ⟨us, ts, hrest, hus⟩ := isBounds_of_between hbounds
      exact ⟨rfl, .repeats rfl (hrest ▸ .bounds hus)⟩
  case h_11 =>
    obtain ⟨g, r₁, hgroup, h⟩ := bind_ok h
    rcases group_ok hfuel hgroup with ⟨item, rfl⟩ | ⟨rfl, hcomment⟩
    · cases h
      exact ⟨rfl, .adds _⟩
    · cases h
      exact ⟨rfl, .skips rfl hcomment⟩
  all_goals
    cases h
    exact ⟨rfl, .adds _⟩

theorem Turns.ne_nil {t : Token} {before after : List Token} {read items : List Item}
    (h : Turns t before after read items) (hread : read ≠ []) : items ≠ [] := by
  cases h with
  | adds item => exact List.cons_ne_nil _ _
  | repeats _ _ => exact List.cons_ne_nil _ _
  | skips _ _ => exact hread

/-- Behind some parts, tokens that do not begin with a repetition leave them as they are. -/
theorem Turns.keeps {t : Token} {before after : List Token} {front below items : List Item}
    (h : Turns t before after (front ++ below) items)
    (hfront : front ≠ [] ∨ ¬ BeginsRepetition (t :: before)) :
    ∃ front', items = front' ++ below ∧ (front' ≠ [] ∨ ¬ BeginsRepetition after) := by
  cases h with
  | adds item => exact ⟨item :: front, rfl, Or.inl (List.cons_ne_nil _ _)⟩
  | @repeats item item' others hread hrepetition =>
    cases front with
    | nil => exact absurd hrepetition (hfront.resolve_left (by simp))
    | cons first front =>
      obtain ⟨-, rfl⟩ := List.cons.inj hread
      exact ⟨item' :: front, rfl, Or.inl (List.cons_ne_nil _ _)⟩
  | skips ht hcomment =>
    subst ht
    exact ⟨front, rfl, hfront.imp_right fun hno hafter => hno (.comment hcomment hafter)⟩

/-! ## Up to the end of the pattern -/

theorem part_escaped (leading : Bool) (read : List Item) (c : CodePoint) :
    part fuel leading [] read (.escaped c) = (do
      let item ← escape [] c
      return ([], item :: read)) := rfl

/-- Whatever fuel is left, a part moves on. -/
theorem part_moves {leading : Bool} {flags : Flags} {read : List Item} {t : Token} {r s : Reader}
    {y : Flags × List Item} (hfuel : 4 * r.rest.length + 4 ≤ fuel)
    (h : part fuel leading flags read t r = .ok (y, s)) : Onward r.rest s.rest := by
  have hgroup (start start' : Nat) : Agrees false [] r.rest.length (group fuel leading flags start)
      (group fuel false flags start') :=
    (nestedAgree [] fuel).group _ flags start start' (by simp) hfuel hfuel
  exact part_onward hgroup h

theorem sequence_onward {leading : Bool} {flags : Flags} {read : List Item}
    {r s : Reader} {x : Item} (hfuel : 4 * r.rest.length + 1 ≤ fuel)
    (h : sequence fuel leading flags read r = .ok (x, s)) : Onward r.rest s.rest := by
  induction fuel generalizing flags read r with
  | zero => omega
  | succ fuel ih =>
    rcases sequence_ok h with ⟨rfl, -, -⟩ | ⟨t, ts, pos, hrest, hne, -, h⟩
    · exact .here _
    rw [hrest, List.length_cons] at hfuel
    rw [hrest]
    refine .take hne ?_
    split at h
    · cases h
      exact .here _
    · obtain ⟨y, r₁, hpart, h⟩ := bind_ok h
      have honward : Onward ts r₁.rest := part_moves (by dsimp only; omega) hpart
      have := honward.length_le
      exact honward.trans (ih (by omega) h)

/-- Behind the first part, it makes no difference whether a sequence is at the beginning of the
pattern. -/
theorem sequence_leading {read : List Item} {r s : Reader} {x : Item}
    (hfuel : 4 * r.rest.length + 1 ≤ fuel) (hread : read ≠ [])
    (h : sequence fuel true [] read r = .ok (x, s)) :
    sequence fuel false [] read r = .ok (x, s) := by
  induction fuel generalizing read r with
  | zero => omega
  | succ fuel ih =>
    have hempty : (true && read.isEmpty) = false := by
      rw [Bool.true_and, List.isEmpty_eq_false_iff]
      exact hread
    rw [sequence_succ, hempty] at h
    rw [sequence_succ, Bool.false_and]
    obtain ⟨o, r₁, hpeek, h⟩ := bind_ok h
    rw [bind_eq hpeek]
    cases hpeek
    cases hrest : r.rest with
    | nil =>
      rw [hrest] at h
      exact h
    | cons t ts =>
      rw [hrest] at h hfuel
      dsimp only [List.head?_cons] at h ⊢
      split at h
      · next hstop =>
        rw [if_pos hstop]
        exact h
      next hgo =>
      obtain ⟨o, r₂, hnext, h⟩ := bind_ok h
      rw [if_neg hgo, bind_eq hnext]
      split at h
      · next ht =>
        rw [if_pos ht]
        exact h
      next ht =>
      obtain ⟨⟨flags, items⟩, r₃, hpart, h⟩ := bind_ok h
      rw [if_neg ht, bind_eq hpart]
      rcases next_ok hnext with ⟨-, hnil, -⟩ | ⟨t', ts', pos, -, hcons, -, rfl⟩
      · rw [hrest] at hnil
        cases hnil
      obtain ⟨rfl, rfl⟩ := List.cons.inj (hcons.symm.trans hrest)
      rw [List.length_cons] at hfuel
      have hlen := (part_moves (by dsimp only; omega) hpart).length_le
      obtain ⟨rfl, hturns⟩ := part_cases (by omega) ht hpart
      dsimp only at hlen
      exact ih (by omega) (hturns.ne_nil hread) h

/-- Nothing at the end of some tokens goes on in the tokens behind. -/
structure Sealed (ts more : List Token) : Prop where
  /-- No repetition is made lazy or possessive. -/
  marks : more.head? ≠ some (.plain '?') ∧ more.head? ≠ some (.plain '+')
  /-- No number takes one more digit. -/
  number (front : List Token) (c : CodePoint) (ds : Text) (d : CodePoint) :
    ts = front ++ .escaped c :: ds.map .plain → more.head? = some (.plain d) →
      ¬ takesDigit c ds d = true
  /-- No brace becomes the beginning of bounds. -/
  bounds (front us vs ws : List Token) : ts = front ++ .plain '\x7b' :: us →
    more = vs ++ .plain '\x7d' :: ws → ¬ IsBounds (us ++ vs)

theorem Sealed.of_suffix {ts us : List Token} (h : Sealed ts more) (hsuffix : us <:+ ts) :
    Sealed us more := by
  obtain ⟨before, rfl⟩ := hsuffix
  refine ⟨h.marks, fun front c ds d hus => ?_, fun front us' vs ws hus => ?_⟩
  · exact h.number (before ++ front) c ds d (by rw [hus, List.append_assoc])
  · exact h.bounds (before ++ front) us' vs ws (by rw [hus, List.append_assoc])

/-- A part is the same within a longer pattern, if nothing at the end of the pattern goes on. -/
theorem part_same {leading : Bool} {read below : List Item} {t : Token} {r r' s s' : Reader}
    {y y' : Flags × List Item} (hsealed : Sealed (t :: r.rest) more)
    (hfuel : 4 * r.rest.length + 4 ≤ fuel) (hfuel' : 4 * (r.rest.length + more.length) + 4 ≤ fuel')
    (halike : Alike more r r') (h : part fuel leading [] read t r = .ok (y, s))
    (h' : part fuel' false [] (read ++ below) t r' = .ok (y', s')) :
    y' = (y.1, y.2 ++ below) ∧ Alike more s s' := by
  by_cases hdigit : ∃ c, t = .escaped c ∧ c.isAsciiDigit = true
  · obtain ⟨c, rfl, hc⟩ := hdigit
    rw [part_escaped] at h h'
    obtain ⟨item, r₁, hitem, h⟩ := bind_ok h
    obtain ⟨item', r₁', hitem', h'⟩ := bind_ok h'
    cases h
    cases h'
    obtain ⟨rfl, halike₁⟩ := escape_number_same hc halike hitem hitem'
      fun _ ds d hds => hsealed.number [] c ds d (by rw [hds]; rfl)
    exact ⟨rfl, halike₁⟩
  · exact part_alike halike (fun _ => hsealed.marks) (fun _ => rfl)
      (fun ht vs ws => hsealed.bounds [] r.rest vs ws (by rw [ht]; rfl))
      (fun c ht => agrees_escape_of_not_digit [] fun hc => hdigit ⟨c, ht, hc⟩)
      (fun start start' => (nestedAgree more fuel).group leading [] start start'
        (fun _ => hsealed.marks.1) hfuel hfuel') h h' (Or.inl rfl)

/-- A sequence within a longer pattern comes to the place where the pattern ends by itself, with the
same parts. -/
theorem sequence_through {leading leading' : Bool} {read below : List Item} {r r' s s' : Reader}
    {x x' : Item} (hsealed : Sealed r.rest more) (hfuel : 4 * r.rest.length + 1 ≤ fuel)
    (hfuel' : 4 * (r.rest.length + more.length) + 1 ≤ fuel') (hbelow : leading' = true → below ≠ [])
    (halike : Alike more r r') (hdangling : .dangling ∉ r.rest)
    (h : sequence fuel leading [] read r = .ok (x, s)) (hend : s.rest = [])
    (h' : sequence fuel' leading' [] (read ++ below) r' = .ok (x', s')) :
    ∃ items fuel'' r'', x = .ofSequence items.reverse ∧ 4 * more.length + 1 ≤ fuel'' ∧
      r''.rest = more ∧ sequence fuel'' leading' [] (items ++ below) r'' = .ok (x', s') := by
  induction fuel generalizing fuel' read r r' with
  | zero => omega
  | succ fuel ih =>
    obtain ⟨fuel', rfl⟩ := exists_succ (Nat.lt_of_lt_of_le (Nat.succ_pos _) hfuel')
    have hrest' := halike.rest
    rcases sequence_ok h with ⟨rfl, rfl, -⟩ | ⟨t, ts, pos, hrest, -, hgo, h⟩
    · exact ⟨read, fuel' + 1, r', rfl, by omega, by rw [hrest', hend, List.nil_append], h'⟩
    rw [hrest] at hsealed hfuel hfuel' hdangling
    rw [hrest, List.cons_append] at hrest'
    rcases sequence_ok h' with ⟨-, -, hstop⟩ | ⟨t', ts', pos', hcons, -, -, h'⟩
    · exact absurd (hstop t (by rw [hrest']; rfl)) hgo
    obtain ⟨rfl, rfl⟩ := List.cons.inj (hcons.symm.trans hrest')
    have ht : t' ≠ .dangling := fun e => hdangling (e ▸ List.mem_cons_self)
    have hempty : (leading' && (read ++ below).isEmpty) = false := by
      cases leading' with
      | false => rfl
      | true =>
        rw [Bool.true_and, List.isEmpty_eq_false_iff]
        exact List.append_ne_nil_of_right_ne_nil _ (hbelow rfl)
    rw [if_neg ht] at h h'
    rw [hempty] at h'
    obtain ⟨y, r₁, hpart, h⟩ := bind_ok h
    obtain ⟨y', r₁', hpart', h'⟩ := bind_ok h'
    rw [List.length_cons] at hfuel hfuel'
    have honward : Onward ts r₁.rest := part_moves (by dsimp only; omega) hpart
    have hlen := honward.length_le
    obtain ⟨rfl, halike₁⟩ := part_same hsealed (by dsimp only; omega) (by dsimp only; omega)
      (halike.move ts pos pos') hpart hpart'
    have hy : y.1 = [] := (part_cases (by omega) ht hpart').1
    dsimp only at h'
    rw [hy] at h h'
    exact ih (hsealed.of_suffix (honward.suffix.trans (List.suffix_cons _ _))) (by omega) (by omega)
      halike₁ (fun hm => hdangling (List.mem_cons_of_mem _ (honward.suffix.subset hm))) h h'

/-- Tokens that do not begin with a repetition leave the parts before them as they are. -/
theorem sequence_keeps {front below : List Item} {r s : Reader} {x : Item}
    (hfuel : 4 * r.rest.length + 1 ≤ fuel) (hfront : front ≠ [] ∨ ¬ BeginsRepetition r.rest)
    (h : sequence fuel false [] (front ++ below) r = .ok (x, s)) :
    ∃ items, x = .ofSequence (below.reverse ++ items) := by
  have hdone (front : List Item) : ∃ items,
      Item.ofSequence (front ++ below).reverse = .ofSequence (below.reverse ++ items) :=
    ⟨front.reverse, by rw [List.reverse_append]⟩
  induction fuel generalizing front r with
  | zero => omega
  | succ fuel ih =>
    rcases sequence_ok h with ⟨-, rfl, -⟩ | ⟨t, ts, pos, hrest, -, -, h⟩
    · exact hdone front
    rw [hrest] at hfuel hfront
    split at h
    · cases h
      exact hdone front
    next ht =>
    obtain ⟨⟨flags, items⟩, r₁, hpart, h⟩ := bind_ok h
    rw [List.length_cons] at hfuel
    have hlen := (part_moves (by dsimp only; omega) hpart).length_le
    obtain ⟨rfl, hturns⟩ := part_cases (by omega) ht hpart
    obtain ⟨front', rfl, hfront'⟩ := hturns.keeps hfront
    dsimp only at hlen
    exact ih (by omega) hfront' h

/-- Up to a bar or a parenthesis, sequences are the same within a longer pattern. -/
theorem sequence_alike {read : List Item} {r r' s s' : Reader} {x x' : Item}
    (hfuel : 4 * r.rest.length + 1 ≤ fuel) (hfuel' : 4 * (r.rest.length + more.length) + 1 ≤ fuel')
    (halike : Alike more r r') (h : sequence fuel false [] read r = .ok (x, s))
    (h' : sequence fuel' false [] read r' = .ok (x', s')) (hne : s.rest ≠ []) :
    x' = x ∧ Alike more s s' := by
  have hagree : Agrees false more r.rest.length (sequence fuel false [] read)
      (sequence fuel' false [] read) := (nestedAgree more fuel).sequence [] read hfuel hfuel'
  exact hagree.same (Nat.le_refl _) halike h h' (Or.inr hne)

/-- There are no flags for the whole pattern behind its beginning. -/
theorem sequence_flags {read : List Item} {r s : Reader} {x : Item} (hflags : r.flags = [])
    (hfuel : 4 * r.rest.length + 1 ≤ fuel) (h : sequence fuel false [] read r = .ok (x, s))
    (hne : s.rest ≠ []) : s.flags = [] := by
  have hself : Alike [] r r := ⟨(List.append_nil _).symm, hflags, rfl, rfl, rfl⟩
  exact (sequence_alike hfuel hfuel hself h h hne).2.flags

/-! ## Whole patterns -/

/-- There are no further alternatives, or one behind a bar and those that follow it. -/
theorem furtherAlternatives_ok {flags : Flags} {r s : Reader} {others : List Item}
    (h : furtherAlternatives (fuel + 1) flags r = .ok (others, s)) :
    (others = [] ∧ s = r ∧ r.rest.head? ≠ some (.plain '|')) ∨
      ∃ ts pos item r₁ others', r.rest = .plain '|' :: ts ∧
      sequence fuel false flags [] { r with rest := ts, pos } = .ok (item, r₁) ∧
      furtherAlternatives fuel flags r₁ = .ok (others', s) ∧ others = item :: others' := by
  rw [furtherAlternatives] at h
  obtain ⟨found, r₀, hfound, hothers⟩ := bind_ok h
  rcases accept_ok hfound with ⟨rfl, hhead, rfl⟩ | ⟨ts, pos, rfl, hrest, -, rfl⟩
  · cases hothers
    exact Or.inl ⟨rfl, rfl, hhead⟩
  · obtain ⟨item, r₁, hitem, hothers⟩ := bind_ok hothers
    obtain ⟨others', r₂, hothers', hothers⟩ := bind_ok hothers
    cases hothers
    exact Or.inr ⟨ts, pos, item, r₁, others', hrest, hitem, hothers', rfl⟩

theorem furtherAlternatives_end {flags : Flags} {r s : Reader} {others : List Item}
    (hend : r.rest = []) (h : furtherAlternatives (fuel + 1) flags r = .ok (others, s)) :
    others = [] := by
  rcases furtherAlternatives_ok h with ⟨rfl, -, -⟩ | ⟨ts, pos, item, r₁, others', hrest, -, -, -⟩
  · rfl
  · rw [hend] at hrest
    cases hrest

theorem furtherAlternatives_onward {flags : Flags} {r s : Reader} {others : List Item}
    (hfuel : 4 * r.rest.length + 1 ≤ fuel)
    (h : furtherAlternatives fuel flags r = .ok (others, s)) :
    Onward r.rest s.rest := by
  have hself : Agrees false [] r.rest.length (furtherAlternatives fuel flags)
      (furtherAlternatives fuel flags) :=
    (nestedAgree [] fuel).furtherAlternatives flags hfuel hfuel
  exact hself.onward (Nat.le_refl _) h

/-- What has been done when a whole pattern has been read. -/
theorem parse_ok {pattern : Text} {node : Node} (h : parse pattern = .ok node) :
    ∃ first others r s, sequence (4 * (tokens pattern).length + 3) true [] []
        { rest := tokens pattern } = .ok (first, r) ∧
      furtherAlternatives (4 * (tokens pattern).length + 3) r.flags r = .ok (others, s) ∧
      s.rest = [] ∧ tokens pattern ≠ [.dangling] ∧
      node = (Item.ofAlternatives first others).node := by
  unfold parse at h
  cases hw : whole.run { rest := tokens pattern } with
  | error e =>
    rw [hw] at h
    cases h
  | ok x =>
    rw [hw] at h
    obtain ⟨node', s⟩ := x
    cases h
    have hread : whole { rest := tokens pattern } = .ok (node', s) := hw
    unfold whole at hread
    obtain ⟨_, _, hget, hread⟩ := bind_ok hread
    cases hget
    dsimp only at hread
    split at hread
    · exact absurd hread ((fails_failAt _ _).bind _ _ _ _)
    next hdangling =>
    obtain ⟨item, r, hitem, hread⟩ := bind_ok hread
    obtain ⟨_, _, hget, hread⟩ := bind_ok hread
    cases hget
    split at hread
    · exact absurd hread ((fails_throw _).bind _ _ _ _)
    split at hread
    · exact absurd hread ((fails_fail _ _).bind _ _ _ _)
    next hrest =>
    rw [alternatives] at hitem
    obtain ⟨first, r₁, hfirst, hitem⟩ := bind_ok hitem
    obtain ⟨_, _, hget, hitem⟩ := bind_ok hitem
    cases hget
    obtain ⟨others, r₂, hothers, hitem⟩ := bind_ok hitem
    cases hitem
    refine ⟨first, others, r₁, r, hfirst, hothers, by simpa using hrest, hdangling, ?_⟩
    generalize r.asked.find? _ = missing at hread
    cases missing with
    | some x => exact absurd hread ((fails_failAt _ _).bind _ _ _ _)
    | none =>
      dsimp only at hread
      split at hread
      · exact absurd hread ((fails_throw _).bind _ _ _ _)
      · cases hread
        rfl

/-- A pattern that is read does not end with a backslash. -/
theorem dangling_not_mem_of_parse {pattern : Text} {node : Node} (h : parse pattern = .ok node) :
    .dangling ∉ tokens pattern := by
  obtain ⟨first, others, r, s, hfirst, hothers, hend, hne, -⟩ := parse_ok h
  have honward : Onward (tokens pattern) r.rest := sequence_onward (by dsimp only; omega) hfirst
  have hlen := honward.length_le
  have hall := honward.trans (furtherAlternatives_onward (by omega) hothers)
  rw [hend] at hall
  exact fun hm => hall.getLast?_ne hne (getLast?_of_dangling hm)

end LineSift.Regex.Parse
