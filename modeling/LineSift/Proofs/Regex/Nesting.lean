import LineSift.Proofs.Regex.Groups
import LineSift.Proofs.Text.Order

/-!
# Nested patterns within a longer pattern

Alternatives, sequences and groups call each other, with fuel that is enough for the tokens that are
left (`NestedAgree`).  All of them are compared at once, by induction on the fuel of the first
reader (`nestedAgree`): a sequence takes one token before a group is read, and a group needs the
parenthesis that closes it, so that what is inside of a group need agree before the end only.
Behind a brace whose numbers go on to the end, a sequence comes to the end (`sequence_plain`), and
nothing is asked of it.
-/

namespace LineSift.Regex.Parse

variable {α β : Type} {more : List Token} {toEnd : Bool} {n : Nat}

/-! ## Sequences -/

/-- What one token of a sequence begins: the flags and the parts behind it.  A group can change the
flags of the pattern if it is `leading`. -/
def part (fuel : Nat) (leading : Bool) (flags : Flags) (read : List Item) (t : Token) :
    Parse (Flags × List Item) := do
  let verbose := flags.contains .verbose
  if verbose && isLayout t then return (flags, read)
  else if verbose && t == .plain '#' then
    skipLine ((← get).rest.length + 1)
    return (flags, read)
  else
    let start := (← get).pos - 1
    let literal (c : CodePoint) : Item := .char (.literal flags.caseMode c)
    match t with
    | .dangling => return (flags, read)
    | .escaped c => return (flags, (← escape flags c) :: read)
    | .plain (.char '[') => return (flags, (← bracketSet flags) :: read)
    | .plain (.char '.') =>
      let any := if .dotAll ∈ flags then CharTest.all else .withinLine
      return (flags, .char any :: read)
    | .plain (.char '^') =>
      let a : Anchor := if .multiline ∈ flags then .lineStart else .textStart
      return (flags, .anchor a :: read)
    | .plain (.char '$') =>
      let a : Anchor := if .multiline ∈ flags then .lineEnd else .lastLineEnd
      return (flags, .anchor a :: read)
    | .plain (.char '?') => return (flags, ← quantify start 0 (some 1) read)
    | .plain (.char '*') => return (flags, ← quantify start 0 none read)
    | .plain (.char '+') => return (flags, ← quantify start 1 none read)
    | .plain (.char '\x7b') =>
      match ← bounds with
      | .literal => return (flags, literal '\x7b' :: read)
      | .between lo hi => return (flags, ← quantify start lo hi read)
    | .plain (.char '(') =>
      match ← group fuel leading flags start with
      | .item item => return (flags, item :: read)
      | .nothing => return (flags, read)
      | .flags flags => return (flags, read)
    | .plain c => return (flags, literal c :: read)

theorem sequence_succ (fuel : Nat) (leading : Bool) (flags : Flags) (read : List Item) :
    sequence (fuel + 1) leading flags read = (do
      let some t ← peek | return .ofSequence read.reverse
      if t = .plain '|' ∨ t = .plain ')' then return .ofSequence read.reverse
      let _ ← next
      if t = .dangling then return .ofSequence read.reverse
      let x ← part fuel (leading && read.isEmpty) flags read t
      sequence fuel leading x.1 x.2) := by
  rw [sequence]
  refine bind_congr fun o => ?_
  cases o with
  | none => rfl
  | some t =>
    dsimp only
    split
    · rfl
    refine bind_congr fun _ => ?_
    cases t with
    | dangling =>
      simp only [isLayout, Bool.and_false, Bool.false_eq_true, if_false, if_true]
      split
      · rename_i h
        simp at h
      · rfl
    | escaped c => simp [part, isLayout]
    | plain c =>
      simp only [reduceCtorEq, if_false]
      unfold part
      dsimp only
      split
      · rfl
      split
      · simp only [bind_assoc, pure_bind]
      simp only [bind_assoc]
      refine bind_congr fun r => ?_
      split
      all_goals rename_i heq
      all_goals cases heq
      case h_12 =>
        simp only [pure_bind]
      case h_10 =>
        simp only [bind_assoc]
        refine bind_congr fun b => ?_
        cases b with
        | literal => rfl
        | between lo hi => simp only [bind_assoc, pure_bind]
      case h_11 =>
        simp only [bind_assoc]
        refine bind_congr fun g => ?_
        cases g with
        | item i => rfl
        | nothing => rfl
        | flags f => rfl
      all_goals simp only [bind_assoc, pure_bind]

/-- A sequence ends where there is nothing more, a bar or a parenthesis, or goes on with the next
part. -/
theorem sequence_ok {fuel : Nat} {leading : Bool} {flags : Flags} {read : List Item} {r s : Reader}
    {x : Item} (h : sequence (fuel + 1) leading flags read r = .ok (x, s)) :
    (s = r ∧ x = .ofSequence read.reverse ∧
      ∀ t, r.rest.head? = some t → t = .plain '|' ∨ t = .plain ')') ∨
    ∃ t ts pos, r.rest = t :: ts ∧ ts ≠ [.dangling] ∧ ¬ (t = .plain '|' ∨ t = .plain ')') ∧
      (if t = .dangling then return .ofSequence read.reverse
        else part fuel (leading && read.isEmpty) flags read t >>= fun y =>
          sequence fuel leading y.1 y.2 : Parse Item) { r with rest := ts, pos } = .ok (x, s) := by
  rw [sequence_succ] at h
  obtain ⟨o, r₁, hpeek, h⟩ := bind_ok h
  cases hpeek
  cases hrest : r.rest with
  | nil =>
    rw [hrest] at h
    cases h
    exact Or.inl ⟨rfl, rfl, by simp⟩
  | cons t ts =>
    rw [hrest] at h
    dsimp only [List.head?_cons] at h
    split at h
    · next hstop =>
      cases h
      exact Or.inl ⟨rfl, rfl, fun u hu => Option.some.inj hu ▸ hstop⟩
    · next hgo =>
      obtain ⟨o, r₁, hnext, h⟩ := bind_ok h
      rcases next_ok hnext with ⟨-, hnil, -⟩ | ⟨t', ts', pos, -, hcons, hne, rfl⟩
      · rw [hrest] at hnil
        cases hnil
      · rw [hrest] at hcons
        obtain ⟨rfl, rfl⟩ := List.cons.inj hcons
        exact Or.inr ⟨t, ts, pos, rfl, hne, hgo, h⟩

theorem isSpecial_of_isAsciiSpace {c : CodePoint} (h : c.isAsciiSpace = true) :
    isSpecial c = true := by
  have hn : c.toNat = 9 ∨ c.toNat = 10 ∨ c.toNat = 11 ∨ c.toNat = 12 ∨ c.toNat = 13 ∨
      c.toNat = 32 := by
    simp only [CodePoint.isAsciiSpace, CodePoint.inRange, Bool.or_eq_true, Bool.and_eq_true,
      decide_eq_true_eq, beq_iff_eq] at h
    omega
  have hchar {d : Char} (hd : c.toNat = d.toNat) (hspecial : isSpecial d = true) :
      isSpecial c = true := by
    rwa [show c = .char d from CodePoint.toNat_inj hd]
  rcases hn with h | h | h | h | h | h
  · exact hchar (d := '\t') h (by decide)
  · exact hchar (d := '\n') h (by decide)
  · exact hchar (d := '\x0b') h (by decide)
  · exact hchar (d := '\x0c') h (by decide)
  · exact hchar (d := '\r') h (by decide)
  · exact hchar (d := ' ') h (by decide)

/-- A code point that is not special stands for itself. -/
theorem part_literal (fuel : Nat) (leading : Bool) (flags : Flags) (read : List Item)
    {c : CodePoint} (hc : ¬ isSpecial c = true) : part fuel leading flags read (.plain c) =
      (get >>= fun _ => pure (flags, .char (.literal flags.caseMode c) :: read)) := by
  have hlayout : isLayout (.plain c) = false :=
    Bool.eq_false_iff.mpr fun h => hc (isSpecial_of_isAsciiSpace h)
  have hcomment : (Token.plain c == .plain '#') = false := by
    refine beq_eq_false_iff_ne.mpr fun h => ?_
    obtain rfl := Token.plain.inj h
    exact hc (by decide)
  unfold part
  simp only [hlayout, hcomment, Bool.and_false, Bool.false_eq_true, if_false]
  refine bind_congr fun r => ?_
  split
  all_goals
    rename_i heq
    cases heq
  all_goals first
    | rfl
    | exact absurd (by decide) hc

/-- Code points that are not special are read to their end. -/
theorem sequence_plain {fuel : Nat} {leading : Bool} {flags : Flags} {read : List Item}
    {r s : Reader} {x : Item} (hfuel : r.rest.length < fuel)
    (hplain : ∀ t ∈ r.rest, ∃ c, t = .plain c ∧ ¬ isSpecial c = true)
    (h : sequence fuel leading flags read r = .ok (x, s)) : s.rest = [] := by
  induction fuel generalizing flags read r with
  | zero => exact absurd hfuel (Nat.not_lt_zero _)
  | succ fuel ih =>
    rcases sequence_ok h with ⟨rfl, -, hstop⟩ | ⟨t, ts, pos, hrest, -, -, h⟩
    · cases hrest : s.rest with
      | nil => rfl
      | cons t ts =>
        obtain ⟨c, rfl, hc⟩ := hplain t (by rw [hrest]; exact List.mem_cons_self)
        rcases hstop _ (by rw [hrest]; rfl) with ht | ht
        all_goals
          obtain rfl := Token.plain.inj ht
          exact absurd (by decide) hc
    · rw [hrest] at hfuel hplain
      obtain ⟨c, rfl, hc⟩ := hplain t List.mem_cons_self
      rw [if_neg (by simp), part_literal _ _ _ _ hc] at h
      exact ih (Nat.lt_of_succ_lt_succ hfuel) (fun u hu => hplain u (List.mem_cons_of_mem _ hu)) h

/-- What stands at a brace: the brace itself, or a repetition of the last part. -/
def braced (flags : Flags) (read : List Item) (start : Nat) : Bounds → Parse (List Item)
  | .literal => return .char (.literal flags.caseMode '\x7b') :: read
  | .between lo hi => quantify start lo hi read

theorem part_brace (fuel : Nat) (leading : Bool) (flags : Flags) (read : List Item) :
    part fuel leading flags read (.plain '\x7b') = (do
      let r ← get
      let b ← bounds
      let items ← braced flags read (r.pos - 1) b
      return (flags, items)) := by
  have hlayout : isLayout (.plain '\x7b') = false := by decide
  have hcomment : (Token.plain '\x7b' == .plain '#') = false := by decide
  unfold part
  simp only [hlayout, hcomment, Bool.and_false, Bool.false_eq_true, if_false]
  refine bind_congr fun r => bind_congr fun b => ?_
  cases b with
  | literal => rfl
  | between lo hi => rfl

theorem agrees_braced (flags : Flags) (start start' : Nat) (b : Bounds) (read below : List Item)
    (hmarks : toEnd = true → more.head? ≠ some (.plain '?') ∧ more.head? ≠ some (.plain '+')) :
    Agrees toEnd more n (braced flags read start b >>= fun items => pure (flags, items ++ below))
      (braced flags (read ++ below) start' b >>= fun items => pure (flags, items)) := by
  cases b with
  | literal => exact agrees_pure _
  | between lo hi => exact agrees_quantify _ _ _ _ _ _ hmarks fun _ => agrees_pure _

/-- A part other than a brace is the same behind further parts. -/
theorem agrees_part {fuel fuel' : Nat} {leading : Bool} (flags : Flags) (read below : List Item)
    {t : Token} (ht : t ≠ .plain '\x7b')
    (hmarks : toEnd = true → more.head? ≠ some (.plain '?') ∧ more.head? ≠ some (.plain '+'))
    (hverbose : toEnd = true → flags.contains .verbose = false)
    (hescape : ∀ c, t = .escaped c → Agrees toEnd more n (escape flags c) (escape flags c))
    (hgroup : ∀ start start', Agrees toEnd more n (group fuel leading flags start)
      (group fuel' false flags start')) :
    Agrees toEnd more n
      (part fuel leading flags read t >>= fun x => pure (x.1, x.2 ++ below))
      (part fuel' false flags (read ++ below) t) := by
  unfold part
  dsimp only
  split
  · exact agrees_pure _
  split
  · next hcomment =>
    cases toEnd with
    | true =>
      rw [hverbose rfl] at hcomment
      cases hcomment
    | false =>
      simp only [bind_assoc]
      refine .get_bind fun r r' _ halike => ?_
      refine (agrees_skipLine (Nat.lt_succ_self _) ?_).bind fun _ => agrees_pure _
      rw [halike.length]
      omega
  simp only [bind_assoc]
  refine .get_bind fun r r' hr halike => ?_
  split
  all_goals simp only [bind_assoc, pure_bind]
  case h_2 c _ _ => exact ((hescape c rfl).mono hr).bind fun _ => agrees_pure _
  case h_3 => exact (agrees_bracketSet flags).bind fun _ => agrees_pure _
  case h_7 | h_8 | h_9 => exact agrees_quantify _ _ _ _ _ _ hmarks fun _ => agrees_pure _
  case h_10 => exact absurd rfl ht
  case h_11 =>
    refine ((hgroup _ _).mono hr).bind fun g => ?_
    cases g with
    | item _ => exact agrees_pure _
    | nothing => exact agrees_pure _
    | flags _ => exact agrees_pure _
  all_goals exact agrees_pure _

section

variable {fuel fuel' : Nat} {leading : Bool} {flags : Flags} {read below : List Item} {t : Token}
  {r r' s s' : Reader} {y y' : Flags × List Item}

theorem part_onward (hgroup : ∀ start start', Agrees false more r.rest.length
      (group fuel leading flags start) (group fuel' false flags start'))
    (h : part fuel leading flags read t r = .ok (y, s)) : Onward r.rest s.rest := by
  by_cases ht : t = .plain '\x7b'
  · subst ht
    rw [part_brace] at h
    obtain ⟨_, _, hget, h⟩ := bind_ok h
    cases hget
    obtain ⟨b, r₁, hbounds, h⟩ := bind_ok h
    obtain ⟨items, r₂, hitems, h⟩ := bind_ok h
    cases h
    have hbraced : Agrees false [] r₁.rest.length _ _ :=
      agrees_braced flags (r.pos - 1) (r.pos - 1) b read [] (by simp)
    exact (bounds_onward hbounds).trans (hbraced.onward (Nat.le_refl _) (bind_eq hitems))
  · have hpart := agrees_part flags read [] ht (by simp) (by simp)
      (fun c _ => agrees_escape flags c)
      hgroup
    exact hpart.onward (Nat.le_refl _) (bind_eq h)

/-- A part is the same behind further parts.  If it is a brace, no bounds begin there that go on in
the tokens behind. -/
theorem part_alike (halike : Alike more r r')
    (hmarks : toEnd = true → more.head? ≠ some (.plain '?') ∧ more.head? ≠ some (.plain '+'))
    (hverbose : toEnd = true → flags.contains .verbose = false)
    (hbounds : t = .plain '\x7b' → ∀ vs ws, more = vs ++ Token.plain '\x7d' :: ws →
      ¬ IsBounds (r.rest ++ vs))
    (hescape : ∀ c, t = .escaped c →
      Agrees toEnd more r.rest.length (escape flags c) (escape flags c))
    (hgroup : ∀ start start', Agrees toEnd more r.rest.length (group fuel leading flags start)
      (group fuel' false flags start'))
    (h : part fuel leading flags read t r = .ok (y, s))
    (h' : part fuel' false flags (read ++ below) t r' = .ok (y', s'))
    (hend : toEnd = true ∨ s.rest ≠ []) : y' = (y.1, y.2 ++ below) ∧ Alike more s s' := by
  by_cases ht : t = .plain '\x7b'
  · subst ht
    rw [part_brace] at h h'
    obtain ⟨_, _, hget, h⟩ := bind_ok h
    cases hget
    obtain ⟨_, _, hget, h'⟩ := bind_ok h'
    cases hget
    obtain ⟨b, r₁, hb, h⟩ := bind_ok h
    obtain ⟨b', r₁', hb', h'⟩ := bind_ok h'
    obtain ⟨items, r₂, hitems, h⟩ := bind_ok h
    cases h
    obtain ⟨rfl, halike₁⟩ := bounds_same halike hb hb' (hbounds rfl)
    exact (agrees_braced flags _ _ b' read below hmarks).same (Nat.le_refl _) halike₁
      (bind_eq hitems)
      h' hend
  · exact (agrees_part flags read below ht hmarks hverbose hescape hgroup).same
      (Nat.le_refl _) halike (bind_eq h) h' hend

end

/-! ## Nesting -/

/-- The readers of nested patterns agree, with this much fuel for the first and enough for both.
What is closed by a parenthesis agrees up to the end. -/
structure NestedAgree (more : List Token) (fuel : Nat) : Prop where
  alternatives {n fuel' : Nat} (flags : Flags) : 4 * n + 2 ≤ fuel →
    4 * (n + more.length) + 2 ≤ fuel' →
    Agrees false more n (alternatives fuel false flags) (alternatives fuel' false flags)
  furtherAlternatives {n fuel' : Nat} (flags : Flags) : 4 * n + 1 ≤ fuel →
    4 * (n + more.length) + 1 ≤ fuel' →
    Agrees false more n (furtherAlternatives fuel flags) (furtherAlternatives fuel' flags)
  sequence {n fuel' : Nat} (flags : Flags) (read : List Item) : 4 * n + 1 ≤ fuel →
    4 * (n + more.length) + 1 ≤ fuel' →
    Agrees false more n (sequence fuel false flags read) (sequence fuel' false flags read)
  group {toEnd : Bool} {n fuel' : Nat} (leading : Bool) (flags : Flags) (start start' : Nat) :
    (toEnd = true → more.head? ≠ some (.plain '?')) → 4 * n + 4 ≤ fuel →
      4 * (n + more.length) + 4 ≤ fuel' →
    Agrees toEnd more n (group fuel leading flags start) (group fuel' false flags start')
  capture {toEnd : Bool} {n fuel' : Nat} (flags : Flags) (start start' : Nat) (name : Option Text) :
    4 * n + 3 ≤ fuel → 4 * (n + more.length) + 3 ≤ fuel' →
    Agrees toEnd more n (capture fuel flags start name) (capture fuel' flags start' name)
  plainGroup {toEnd : Bool} {n fuel' : Nat} (flags : Flags) (start start' : Nat) :
    4 * n + 3 ≤ fuel → 4 * (n + more.length) + 3 ≤ fuel' →
    Agrees toEnd more n (plainGroup fuel flags start) (plainGroup fuel' flags start')
  look {toEnd : Bool} {n fuel' : Nat} (flags : Flags) (start start' : Nat) (negated : Bool) :
    4 * n + 3 ≤ fuel → 4 * (n + more.length) + 3 ≤ fuel' →
    Agrees toEnd more n (look fuel flags start negated) (look fuel' flags start' negated)
  lookBehind {toEnd : Bool} {n fuel' : Nat} (flags : Flags) (start start' : Nat) (negated : Bool) :
    4 * n + 3 ≤ fuel → 4 * (n + more.length) + 3 ≤ fuel' →
    Agrees toEnd more n (lookBehind fuel flags start negated)
      (lookBehind fuel' flags start' negated)
  conditional {toEnd : Bool} {n fuel' : Nat} (flags : Flags) (start start' : Nat) :
    4 * n + 3 ≤ fuel → 4 * (n + more.length) + 3 ≤ fuel' →
    Agrees toEnd more n (conditional fuel flags start) (conditional fuel' flags start')

theorem exists_succ {k : Nat} (h : 0 < k) : ∃ m, k = m + 1 := ⟨k - 1, by omega⟩

section

variable {fuel fuel' : Nat} (flags : Flags) (start start' : Nat)

/-- Alternatives up to the parenthesis that closes them. -/
theorem NestedAgree.closed (ih : NestedAgree more fuel)
    (hfuel : 4 * n + 2 ≤ fuel) (hfuel' : 4 * (n + more.length) + 2 ≤ fuel')
    {g g' : Item → Parse β} (hg : ∀ body, Agrees toEnd more n (g body) (g' body)) :
    Agrees toEnd more n
      (do let body ← Parse.alternatives fuel false flags; closing start; g body)
      (do let body ← Parse.alternatives fuel' false flags; closing start'; g' body) :=
  (ih.alternatives flags hfuel hfuel').bind_needs
    (fun body => (agrees_closing _ _).bind fun _ => hg body)
    (fun _ => (needs_closing start).bind _)

theorem agrees_alternatives (ih : NestedAgree more fuel) (hfuel : 4 * n + 2 ≤ fuel + 1)
    (hfuel' : 4 * (n + more.length) + 2 ≤ fuel') :
    Agrees false more n (alternatives (fuel + 1) false flags) (alternatives fuel' false flags) := by
  obtain ⟨fuel', rfl⟩ := exists_succ (Nat.lt_of_lt_of_le (Nat.succ_pos _) hfuel')
  rw [alternatives, alternatives]
  refine (ih.sequence flags [] (by omega) (by omega)).bind fun first => ?_
  refine .get_bind fun r r' hr _ => ?_
  exact ((ih.furtherAlternatives _ (by omega) (by omega)).mono hr).bind fun _ => agrees_pure _

theorem agrees_furtherAlternatives (ih : NestedAgree more fuel) (hfuel : 4 * n + 1 ≤ fuel + 1)
    (hfuel' : 4 * (n + more.length) + 1 ≤ fuel') :
    Agrees false more n (furtherAlternatives (fuel + 1) flags)
      (furtherAlternatives fuel' flags) := by
  obtain ⟨fuel', rfl⟩ := exists_succ (Nat.lt_of_lt_of_le (Nat.succ_pos _) hfuel')
  rw [furtherAlternatives, furtherAlternatives]
  refine .accept (by simp) (fun m hm => ?_) (agrees_pure _)
  refine (ih.sequence flags [] (by omega) (by omega)).bind fun item => ?_
  exact (ih.furtherAlternatives flags (by omega) (by omega)).bind fun _ => agrees_pure _

theorem agrees_sequence (ih : NestedAgree more fuel) (read : List Item)
    (hfuel : 4 * n + 1 ≤ fuel + 1) (hfuel' : 4 * (n + more.length) + 1 ≤ fuel') :
    Agrees false more n (sequence (fuel + 1) false flags read)
      (sequence fuel' false flags read) := by
  obtain ⟨fuel', rfl⟩ := exists_succ (Nat.lt_of_lt_of_le (Nat.succ_pos _) hfuel')
  refine ⟨fun hn h => ?_, fun hn halike h h' hend => ?_⟩
  · rcases sequence_ok h with ⟨rfl, -, -⟩ | ⟨t, ts, pos, hrest, hne, -, h⟩
    · exact .here _
    rw [hrest] at hn ⊢
    rw [List.length_cons] at hn
    refine .take hne ?_
    split at h
    · cases h
      exact .here _
    obtain ⟨y, r₁, hpart, h⟩ := bind_ok h
    have hgroup (start start' : Nat) : Agrees false more ts.length
        (group fuel (false && read.isEmpty) flags start) (group fuel' false flags start') :=
      ih.group _ flags start start' (by simp) (by omega) (by omega)
    have honward : Onward ts r₁.rest := part_onward hgroup hpart
    have hsequence : Agrees false more ts.length _ (sequence fuel' false y.1 y.2) :=
      ih.sequence y.1 y.2 (by omega) (by omega)
    exact honward.trans (hsequence.onward honward.length_le h)
  · have hne : _ ≠ [] := hend.resolve_left (by simp)
    have hrest' := halike.rest
    rcases sequence_ok h with ⟨rfl, rfl, hstop⟩ | ⟨t, ts, pos, hrest, -, hgo, h⟩
    · obtain ⟨t, ts, hrest⟩ := List.exists_cons_of_ne_nil hne
      rw [hrest, List.cons_append] at hrest'
      have ht := hstop t (by rw [hrest]; rfl)
      rcases sequence_ok h' with ⟨rfl, rfl, -⟩ | ⟨t', ts', pos', hcons, -, hgo', -⟩
      · exact ⟨rfl, halike⟩
      · obtain ⟨rfl, -⟩ := List.cons.inj (hcons.symm.trans hrest')
        exact absurd ht hgo'
    rw [hrest, List.cons_append] at hrest'
    rcases sequence_ok h' with ⟨-, -, hstop⟩ | ⟨t', ts', pos', hcons, -, -, h'⟩
    · exact absurd (hstop t (by rw [hrest']; rfl)) hgo
    obtain ⟨rfl, rfl⟩ := List.cons.inj (hcons.symm.trans hrest')
    rw [hrest, List.length_cons] at hn
    split at h
    · next ht =>
      rw [if_pos ht] at h'
      cases h
      cases h'
      exact ⟨rfl, halike.move _ _ _⟩
    next ht =>
    rw [if_neg ht] at h'
    obtain ⟨y, r₁, hpart, h⟩ := bind_ok h
    obtain ⟨y', r₁', hpart', h'⟩ := bind_ok h'
    have hgroup (start start' : Nat) : Agrees false more ts.length
        (group fuel (false && read.isEmpty) flags start) (group fuel' false flags start') :=
      ih.group _ flags start start' (by simp) (by omega) (by omega)
    have honward : Onward ts r₁.rest := part_onward hgroup hpart
    have hsequence : Agrees false more ts.length (sequence fuel false y.1 y.2)
        (sequence fuel' false y.1 y.2) := ih.sequence y.1 y.2 (by omega) (by omega)
    have hbounds (vs : List Token) : ¬ IsBounds (ts ++ vs) := by
      -- the first reader takes numbers that go on to the end for themselves
      intro hbounds
      refine hne (sequence_plain (by have := honward.length_le; omega) (fun u hu => ?_) h)
      exact hbounds.2.not_special u (List.mem_append_left _ (honward.suffix.subset hu))
    rw [← List.append_nil read] at hpart'
    obtain ⟨rfl, halike₁⟩ := part_alike (halike.move ts pos pos') (by simp) (by simp)
      (fun _ vs _ _ => hbounds vs) (fun c _ => agrees_escape flags c) hgroup hpart hpart'
      (Or.inr ((hsequence.onward honward.length_le h).ne_nil hne))
    rw [List.append_nil] at h'
    exact hsequence.same honward.length_le halike₁ h h' hend

theorem agrees_capture (ih : NestedAgree more fuel) (name : Option Text)
    (hfuel : 4 * n + 3 ≤ fuel + 1) (hfuel' : 4 * (n + more.length) + 3 ≤ fuel') :
    Agrees toEnd more n (capture (fuel + 1) flags start name)
      (capture fuel' flags start' name) := by
  obtain ⟨fuel', rfl⟩ := exists_succ (Nat.lt_of_lt_of_le (Nat.succ_pos _) hfuel')
  rw [capture, capture]
  refine (agrees_openGroup name).bind fun number => ?_
  refine ih.closed flags start start' (by omega) (by omega) fun body => ?_
  exact (agrees_closeGroup _ _).bind fun _ => agrees_pure _

theorem agrees_plainGroup (ih : NestedAgree more fuel)
    (hfuel : 4 * n + 3 ≤ fuel + 1) (hfuel' : 4 * (n + more.length) + 3 ≤ fuel') :
    Agrees toEnd more n (plainGroup (fuel + 1) flags start) (plainGroup fuel' flags start') := by
  obtain ⟨fuel', rfl⟩ := exists_succ (Nat.lt_of_lt_of_le (Nat.succ_pos _) hfuel')
  rw [plainGroup, plainGroup]
  exact ih.closed flags start start' (by omega) (by omega) fun body => agrees_pure _

theorem agrees_look (ih : NestedAgree more fuel) (negated : Bool)
    (hfuel : 4 * n + 3 ≤ fuel + 1) (hfuel' : 4 * (n + more.length) + 3 ≤ fuel') :
    Agrees toEnd more n (look (fuel + 1) flags start negated)
      (look fuel' flags start' negated) := by
  obtain ⟨fuel', rfl⟩ := exists_succ (Nat.lt_of_lt_of_le (Nat.succ_pos _) hfuel')
  rw [look, look]
  exact ih.closed flags start start' (by omega) (by omega) fun body => agrees_pure _

theorem agrees_lookBehind (ih : NestedAgree more fuel) (negated : Bool)
    (hfuel : 4 * n + 3 ≤ fuel + 1) (hfuel' : 4 * (n + more.length) + 3 ≤ fuel') :
    Agrees toEnd more n (lookBehind (fuel + 1) flags start negated)
      (lookBehind fuel' flags start' negated) := by
  obtain ⟨fuel', rfl⟩ := exists_succ (Nat.lt_of_lt_of_le (Nat.succ_pos _) hfuel')
  have hmark (g : Reader → Option Nat) :
      Stays (modify fun r => { r with behindFrom := g r } : Parse Unit) :=
    stays_modify fun r => ⟨rfl, rfl, rfl, rfl, rfl⟩
  rw [lookBehind, lookBehind]
  refine .get_bind fun r r' hr _ => ?_
  refine ((hmark _).agrees (hmark _)).bind fun _ => ?_
  refine ((ih.alternatives flags (by omega) (by omega)).mono hr).bind_needs (fun body => ?_)
    (fun body => (hmark _).needs_bind fun _ => (needs_closing start).bind _)
  refine ((hmark _).agrees (hmark _)).bind fun _ => ?_
  refine (agrees_closing _ _).bind fun _ => ?_
  exact (agrees_behindItem _ _).bind fun _ => agrees_pure _

theorem agrees_conditional (ih : NestedAgree more fuel)
    (hfuel : 4 * n + 3 ≤ fuel + 1) (hfuel' : 4 * (n + more.length) + 3 ≤ fuel') :
    Agrees toEnd more n (conditional (fuel + 1) flags start) (conditional fuel' flags start') := by
  obtain ⟨fuel', rfl⟩ := exists_succ (Nat.lt_of_lt_of_le (Nat.succ_pos _) hfuel')
  rw [conditional, conditional]
  refine agrees_condition.bind fun asked => ?_
  refine (ih.sequence flags [] (by omega) (by omega)).bind_needs (fun yes => ?_) (fun yes => ?_)
  · refine .accept (Or.inl ((needs_closing start).bind _)) (fun m hm => ?_)
      ((agrees_closing _ _).bind fun _ => agrees_pure _)
    · refine (ih.sequence flags [] (by omega) (by omega)).bind_needs (fun no => ?_) (fun no => ?_)
      · exact .peek_unless ((fails_fail _ _).bind _) ((fails_fail _ _).bind _)
          ((agrees_closing _ _).bind fun _ => agrees_pure _)
      · exact needs_peek_unless ((fails_fail _ _).bind _) ((needs_closing start).bind _)
  · exact needs_accept ((needs_closing start).bind _)

theorem agrees_group (ih : NestedAgree more fuel) (leading : Bool)
    (hmark : toEnd = true → more.head? ≠ some (.plain '?')) (hfuel : 4 * n + 4 ≤ fuel + 1)
    (hfuel' : 4 * (n + more.length) + 4 ≤ fuel') :
    Agrees toEnd more n (group (fuel + 1) leading flags start)
      (group fuel' false flags start') := by
  obtain ⟨fuel', rfl⟩ := exists_succ (Nat.lt_of_lt_of_le (Nat.succ_pos _) hfuel')
  rw [group, group]
  refine (agrees_accept hmark).bind fun found => ?_
  cases found with
  | false => exact ih.capture flags start start' none (by omega) (by omega)
  | true =>
    refine .next (fun m hm t => ?_) (fails_fail _ _)
    dsimp only
    split
    case h_1 =>
      refine .next (fun m' hm' u => ?_) (fails_fail _ _)
      dsimp only
      split
      · refine (agrees_groupName _).bind fun name => ?_
        exact ih.capture flags start start' _ (by omega) (by omega)
      split
      · exact (agrees_namedBackref _).bind fun _ => agrees_pure _
      · exact (fails_fail _ _).agrees _
    case h_2 => exact ih.plainGroup flags start start' (by omega) (by omega)
    case h_3 =>
      refine .get_bind fun r r' hr halike => ?_
      refine (agrees_skipComment _ _ (Nat.lt_succ_self _) ?_).bind fun _ => agrees_pure _
      rw [halike.length]
      omega
    case h_4 => exact ih.look flags start start' false (by omega) (by omega)
    case h_5 => exact ih.look flags start start' true (by omega) (by omega)
    case h_6 =>
      refine .next (fun m' hm' u => ?_) (fails_fail _ _)
      dsimp only
      split
      · exact ih.lookBehind flags start start' false (by omega) (by omega)
      split
      · exact ih.lookBehind flags start start' true (by omega) (by omega)
      · exact (fails_fail _ _).agrees _
    case h_7 => exact ih.conditional flags start start' (by omega) (by omega)
    case h_8 => exact ih.closed flags start start' (by omega) (by omega) fun _ => agrees_pure _
    case h_9 =>
      split
      · refine (agrees_flagChange t).bind fun change => ?_
        cases change with
        | whole _ =>
          -- within a longer pattern flags for the whole of it come too late
          refine Fails.agrees_right (fun r g s h => ?_) ((fails_failAt _ _).bind _)
          cases leading with
          | false => exact absurd h ((fails_failAt _ _).bind _ _ _ _)
          | true =>
            cases h
            exact .here _
        | forGroup on off => exact ih.plainGroup _ start start' (by omega) (by omega)
      · exact (fails_fail _ _).agrees _

end

/-- Nested patterns are read in the same way within a longer pattern. -/
theorem nestedAgree (more : List Token) (fuel : Nat) : NestedAgree more fuel := by
  induction fuel with
  | zero =>
    constructor
    all_goals
      intros
      omega
  | succ fuel ih =>
    exact {
      alternatives := fun flags => agrees_alternatives flags ih
      furtherAlternatives := fun flags => agrees_furtherAlternatives flags ih
      sequence := fun flags read => agrees_sequence flags ih read
      group := fun leading flags start start' => agrees_group flags start start' ih leading
      capture := fun flags start start' name => agrees_capture flags start start' ih name
      plainGroup := fun flags start start' => agrees_plainGroup flags start start' ih
      look := fun flags start start' negated => agrees_look flags start start' ih negated
      lookBehind := fun flags start start' negated =>
        agrees_lookBehind flags start start' ih negated
      conditional := fun flags start start' => agrees_conditional flags start start' ih }

end LineSift.Regex.Parse
