import LineSift.Proofs.Regex.Reading
import LineSift.Proofs.Regex.Tokens

/-!
# A pattern within a longer pattern

A pattern that is read by itself is compared with the same pattern in front of more tokens.  The two
readers stand alike (`Alike`) as long as the first has not come to its end, and what they give is
the same (`Agrees`).  What the first reader misses at its end the second one may find in the tokens
behind.  Most of what is looked for there is needed, and then the first reader fails (`Needs`); but
a number, a repetition or a comment can go on, which is why agreement up to the end is told from
agreement before it.

Both readers are taken to succeed.  Where one of them fails there is nothing to compare, and so the
places at which errors are reported need not be the same.
-/

namespace LineSift.Regex.Parse

variable {α β : Type} {more : List Token} {toEnd : Bool} {n : Nat}

/-- Tokens that have been taken one by one, none of them in front of a last backslash. -/
inductive Onward : List Token → List Token → Prop
  | here (ts : List Token) : Onward ts ts
  | take {t : Token} {ts us : List Token} : ts ≠ [.dangling] → Onward ts us → Onward (t :: ts) us

/-- Two readers stand at the same place of a pattern, which goes on with more tokens in the second.
The second has no flags for the whole pattern: it does not stand at the beginning, where they can be
given. -/
structure Alike (more : List Token) (r r' : Reader) : Prop where
  rest : r'.rest = r.rest ++ more
  flags : r'.flags = []
  groupCount : r'.groupCount = r.groupCount
  closed : r'.closed = r.closed
  names : r'.names = r.names

/-- From readers that stand alike, with at most `n` tokens left in the first, two steps come to
readers that stand alike and give the same, if both succeed.  Unless `toEnd` holds, this is asked
only where the first reader has not come to its end. -/
structure Agrees (toEnd : Bool) (more : List Token) (n : Nat) (f f' : Parse α) : Prop where
  onward {r s : Reader} {a : α} : r.rest.length ≤ n → f r = .ok (a, s) → Onward r.rest s.rest
  same {r r' s s' : Reader} {a a' : α} : r.rest.length ≤ n → Alike more r r' →
    f r = .ok (a, s) → f' r' = .ok (a', s') → toEnd = true ∨ s.rest ≠ [] → a' = a ∧ Alike more s s'

/-- A step that fails at the end of a pattern. -/
def Needs (f : Parse α) : Prop := ∀ r a s, f r = .ok (a, s) → r.rest ≠ []

namespace Onward

variable {ts us vs : List Token}

theorem trans (h : Onward ts us) (h' : Onward us vs) : Onward ts vs := by
  induction h with
  | here => exact h'
  | take hne _ ih => exact .take hne (ih h')

theorem suffix (h : Onward ts us) : us <:+ ts := by
  induction h with
  | here => exact List.suffix_refl _
  | take _ _ ih => exact ih.trans (List.suffix_cons _ _)

theorem length_le (h : Onward ts us) : us.length ≤ ts.length := h.suffix.length_le

theorem ne_nil (h : Onward ts us) (hne : us ≠ []) : ts ≠ [] := by
  rintro rfl
  exact hne (List.suffix_nil.mp h.suffix)

/-- The end is not reached if there is a backslash before it, unless that was there to
begin with. -/
theorem getLast?_ne (h : Onward ts []) (hne : ts ≠ [.dangling]) :
    ts.getLast? ≠ some .dangling := by
  generalize hus : ([] : List Token) = us at h
  induction h with
  | here => subst hus; simp
  | @take t ts us htail _ ih =>
    cases ts with
    | nil =>
      intro hlast
      obtain rfl := Option.some.inj hlast
      exact hne rfl
    | cons u ts =>
      rw [List.getLast?_cons_of_ne_nil (List.cons_ne_nil u ts)]
      exact ih htail hus

end Onward

theorem Alike.length {r r' : Reader} (h : Alike more r r') :
    r'.rest.length = r.rest.length + more.length := by
  rw [h.rest, List.length_append]

/-- Readers that stand alike do so when both have gone on to the same place. -/
theorem Alike.move {r r' : Reader} (h : Alike more r r') (rest : List Token) (pos pos' : Nat) :
    Alike more { r with rest, pos } { r' with rest := rest ++ more, pos := pos' } :=
  ⟨rfl, h.flags, h.groupCount, h.closed, h.names⟩

theorem exists_alike (more : List Token) (r : Reader) : ∃ r', Alike more r r' :=
  ⟨{ r with rest := r.rest ++ more, flags := [] }, rfl, rfl, rfl, rfl, rfl⟩

/-! ## Putting steps together -/

theorem agrees_pure (a : α) : Agrees toEnd more n (pure a : Parse α) (pure a) where
  onward := by
    intro r s b _ h
    cases h
    exact .here _
  same := by
    intro r r' s s' b b' _ halike h h' _
    cases h
    cases h'
    exact ⟨rfl, halike⟩

theorem Fails.agrees {f : Parse α} (hf : Fails f) (f' : Parse α) : Agrees toEnd more n f f' where
  onward := fun _ h => absurd h (hf _ _ _)
  same := fun _ _ h => absurd h (hf _ _ _)

namespace Agrees

variable {f f' : Parse α} {g g' : α → Parse β}

theorem mono {m : Nat} (h : Agrees toEnd more n f f') (hm : m ≤ n) : Agrees toEnd more m f f' where
  onward := fun hn => h.onward (Nat.le_trans hn hm)
  same := fun hn => h.same (Nat.le_trans hn hm)

/-- Two steps one after the other; the second one need only agree where the first has gone. -/
theorem bind_at (hf : Agrees toEnd more n f f')
    (hg : ∀ r a s, r.rest.length ≤ n → f r = .ok (a, s) →
      Agrees toEnd more s.rest.length (g a) (g' a)) :
    Agrees toEnd more n (f >>= g) (f' >>= g') where
  onward := by
    intro r s b hn h
    obtain ⟨a, r₁, hfr, hgr⟩ := bind_ok h
    exact (hf.onward hn hfr).trans ((hg _ _ _ hn hfr).onward (Nat.le_refl _) hgr)
  same := by
    intro r r' s s' b b' hn halike h h' hend
    obtain ⟨a, r₁, hfr, hgr⟩ := bind_ok h
    obtain ⟨a', r₁', hfr', hgr'⟩ := bind_ok h'
    have hg₁ := hg _ _ _ hn hfr
    obtain ⟨rfl, halike₁⟩ := hf.same hn halike hfr hfr'
      (hend.imp_right fun hne => (hg₁.onward (Nat.le_refl _) hgr).ne_nil hne)
    exact hg₁.same (Nat.le_refl _) halike₁ hgr hgr' hend

theorem bind (hf : Agrees toEnd more n f f') (hg : ∀ a, Agrees toEnd more n (g a) (g' a)) :
    Agrees toEnd more n (f >>= g) (f' >>= g') :=
  hf.bind_at fun _ a _ hn hfr => (hg a).mono (Nat.le_trans (hf.onward hn hfr).length_le hn)

/-- If the second step fails at the end of the pattern, the first one need not agree there. -/
theorem bind_needs (hf : Agrees false more n f f') (hg : ∀ a, Agrees toEnd more n (g a) (g' a))
    (hneeds : ∀ a, Needs (g a)) : Agrees toEnd more n (f >>= g) (f' >>= g') where
  onward := by
    intro r s b hn h
    obtain ⟨a, r₁, hfr, hgr⟩ := bind_ok h
    have honward := hf.onward hn hfr
    exact honward.trans ((hg a).onward (Nat.le_trans honward.length_le hn) hgr)
  same := by
    intro r r' s s' b b' hn halike h h' hend
    obtain ⟨a, r₁, hfr, hgr⟩ := bind_ok h
    obtain ⟨a', r₁', hfr', hgr'⟩ := bind_ok h'
    have hn₁ := Nat.le_trans (hf.onward hn hfr).length_le hn
    obtain ⟨rfl, halike₁⟩ := hf.same hn halike hfr hfr' (Or.inr (hneeds a _ _ _ hgr))
    exact (hg a').same hn₁ halike₁ hgr hgr' hend

/-- A step that looks at the reader, which may depend on the number of tokens that are left. -/
theorem get_bind {g g' : Reader → Parse β}
    (h : ∀ r r', r.rest.length ≤ n → Alike more r r' →
      Agrees toEnd more r.rest.length (g r) (g' r')) :
    Agrees toEnd more n (get >>= g) (get >>= g') where
  onward := by
    intro r s b hn hr
    obtain ⟨r', halike⟩ := exists_alike more r
    exact (h r r' hn halike).onward (Nat.le_refl _) hr
  same := fun {r r'} _ _ _ _ hn halike hr hr' hend =>
    (h r r' hn halike).same (Nat.le_refl _) halike hr hr' hend

end Agrees

/-! ## Tokens -/

theorem next_ok {r s : Reader} {o : Option Token} (h : next r = .ok (o, s)) :
    (o = none ∧ r.rest = [] ∧ s = r) ∨
      ∃ t ts pos, o = some t ∧ r.rest = t :: ts ∧ ts ≠ [.dangling] ∧
        s = { r with rest := ts, pos } := by
  cases hr : r.rest with
  | nil =>
    simp only [next, bind, StateT.bind, Except.bind, get, getThe, MonadStateOf.get,
      StateT.get, pure, Except.pure, hr] at h
    cases h
    exact Or.inl ⟨rfl, rfl, rfl⟩
  | cons t ts =>
    simp only [next, bind, StateT.bind, Except.bind, get, getThe, MonadStateOf.get,
      StateT.get, pure, Except.pure, hr] at h
    split at h
    · cases h
    · next hne =>
      cases h
      exact Or.inr ⟨t, ts, _, rfl, rfl, hne, rfl⟩

/-- A step that goes on with the next token.  If there is none, it fails, or it stays at the end and
need not agree there. -/
theorem Agrees.next_or {g g' : Option Token → Parse β}
    (h : ∀ m < n, ∀ t, Agrees toEnd more m (g (some t)) (g' (some t)))
    (hnone : ∀ r b s, r.rest = [] → g none r = .ok (b, s) → toEnd = false ∧ s.rest = []) :
    Agrees toEnd more n (next >>= g) (next >>= g') where
  onward := by
    intro r s b hn hr
    obtain ⟨o, r₁, hnext, hg⟩ := bind_ok hr
    rcases next_ok hnext with ⟨rfl, hnil, rfl⟩ | ⟨t, ts, pos, rfl, hrest, hne, rfl⟩
    · rw [(hnone _ _ _ hnil hg).2, hnil]
      exact .here _
    · rw [hrest] at hn ⊢
      exact .take hne ((h ts.length hn t).onward (Nat.le_refl _) hg)
  same := by
    intro r r' s s' b b' hn halike hr hr' hend
    obtain ⟨o, r₁, hnext, hg⟩ := bind_ok hr
    obtain ⟨o', r₁', hnext', hg'⟩ := bind_ok hr'
    rcases next_ok hnext with ⟨rfl, hnil, rfl⟩ | ⟨t, ts, pos, rfl, hrest, -, rfl⟩
    · obtain ⟨hfalse, hs⟩ := hnone _ _ _ hnil hg
      rcases hend with htrue | hne
      · rw [htrue] at hfalse
        cases hfalse
      · exact absurd hs hne
    · have hrest' := halike.rest
      rw [hrest, List.cons_append] at hrest'
      rcases next_ok hnext' with ⟨-, hnil, -⟩ | ⟨t', ts', pos', rfl, hcons, -, rfl⟩
      · rw [hnil] at hrest'
        cases hrest'
      · obtain ⟨rfl, rfl⟩ := List.cons.inj (hcons.symm.trans hrest')
        rw [hrest] at hn
        exact (h ts.length hn t').same (Nat.le_refl _) (halike.move _ _ _) hg hg' hend

/-- A step that goes on with the next token, and fails if there is none. -/
theorem Agrees.next {g g' : Option Token → Parse β}
    (h : ∀ m < n, ∀ t, Agrees toEnd more m (g (some t)) (g' (some t))) (hnone : Fails (g none)) :
    Agrees toEnd more n (next >>= g) (next >>= g') :=
  .next_or h fun _ _ _ _ hg => absurd hg (hnone _ _ _)

theorem needs_next {g : Option Token → Parse β} (hnone : Fails (g none)) : Needs (next >>= g) := by
  intro r b s hr hnil
  obtain ⟨o, r₁, hnext, hg⟩ := bind_ok hr
  rcases next_ok hnext with ⟨rfl, -, -⟩ | ⟨t, ts, pos, rfl, hrest, -⟩
  · exact hnone _ _ _ hg
  · rw [hnil] at hrest
    cases hrest

theorem accept_ok {c : CodePoint} {r s : Reader} {b : Bool} (h : accept c r = .ok (b, s)) :
    (b = false ∧ r.rest.head? ≠ some (.plain c) ∧ s = r) ∨
      ∃ ts pos, b = true ∧ r.rest = .plain c :: ts ∧ ts ≠ [.dangling] ∧
        s = { r with rest := ts, pos } := by
  unfold accept at h
  obtain ⟨o, r₁, hpeek, h⟩ := bind_ok h
  cases hpeek
  split at h
  · next hhead =>
    obtain ⟨o, r₂, hnext, h⟩ := bind_ok h
    cases h
    rcases next_ok hnext with ⟨-, hnil, -⟩ | ⟨t, ts, pos, -, hrest, hne, hs⟩
    · rw [hnil] at hhead
      cases hhead
    · rw [hrest] at hhead
      obtain rfl := Option.some.inj hhead
      exact Or.inr ⟨ts, pos, rfl, hrest, hne, hs⟩
  · next hhead =>
    cases h
    exact Or.inl ⟨rfl, hhead, rfl⟩

theorem accept_onward {c : CodePoint} {r s : Reader} {b : Bool} (h : accept c r = .ok (b, s)) :
    Onward r.rest s.rest := by
  rcases accept_ok h with ⟨-, -, rfl⟩ | ⟨ts, pos, -, hrest, hne, rfl⟩
  · exact .here _
  · rw [hrest]
    exact .take hne (.here _)

/-- Whether a code point comes next is the same, unless it is missed at the end and found in the
tokens behind. -/
theorem accept_same {c : CodePoint} {r r' s s' : Reader} {b b' : Bool} (halike : Alike more r r')
    (h : accept c r = .ok (b, s)) (h' : accept c r' = .ok (b', s'))
    (hend : b = false → s.rest = [] → more.head? ≠ some (.plain c)) : b' = b ∧ Alike more s s' := by
  have hrest' := halike.rest
  rcases accept_ok h with ⟨rfl, hhead, rfl⟩ | ⟨ts, pos, rfl, hrest, -, rfl⟩
  · rcases accept_ok h' with ⟨rfl, -, rfl⟩ | ⟨ts', pos', -, hcons, -⟩
    · exact ⟨rfl, halike⟩
    · rw [hcons] at hrest'
      cases hs : s.rest with
      | nil =>
        rw [hs, List.nil_append] at hrest'
        have hmore := hend rfl hs
        rw [← hrest'] at hmore
        exact absurd rfl hmore
      | cons t ts =>
        rw [hs] at hrest' hhead
        exact absurd (congrArg some (List.cons.inj hrest').1.symm) hhead
  · rw [hrest, List.cons_append] at hrest'
    rcases accept_ok h' with ⟨-, hhead, -⟩ | ⟨ts', pos', rfl, hcons, -, rfl⟩
    · rw [hrest'] at hhead
      exact absurd rfl hhead
    · obtain ⟨-, rfl⟩ := List.cons.inj (hcons.symm.trans hrest')
      exact ⟨rfl, halike.move _ _ _⟩

/-- Whether a code point comes next is the same before the end, and there too if the tokens behind
do not begin with it. -/
theorem agrees_accept {c : CodePoint} (hmore : toEnd = true → more.head? ≠ some (.plain c)) :
    Agrees toEnd more n (accept c) (accept c) where
  onward := fun _ => accept_onward
  same := fun _ halike h h' hend => accept_same halike h h' fun _ hnil =>
    hmore (hend.resolve_right fun hne => hne hnil)

/-- A step that goes on with one token less if a code point comes next.  At the end, it fails or the
tokens behind do not begin with that code point. -/
theorem Agrees.accept {c : CodePoint} {g g' : Bool → Parse β}
    (hmore : Needs (g false) ∨ (toEnd = true → more.head? ≠ some (.plain c)))
    (htrue : ∀ m < n, Agrees toEnd more m (g true) (g' true))
    (hfalse : Agrees toEnd more n (g false) (g' false)) :
    Agrees toEnd more n (accept c >>= g) (accept c >>= g') := by
  have hg {r s : Reader} {found : Bool} (hn : r.rest.length ≤ n)
      (h : Parse.accept c r = .ok (found, s)) :
      Agrees toEnd more s.rest.length (g found) (g' found) := by
    rcases accept_ok h with ⟨rfl, -, rfl⟩ | ⟨ts, pos, rfl, hrest, -, rfl⟩
    · exact hfalse.mono hn
    · rw [hrest] at hn
      exact htrue _ hn
  refine ⟨fun hn hr => ?_, fun hn halike hr hr' hend => ?_⟩
  · obtain ⟨found, r₁, haccept, hr⟩ := bind_ok hr
    exact (accept_onward haccept).trans ((hg hn haccept).onward (Nat.le_refl _) hr)
  · obtain ⟨found, r₁, haccept, hr⟩ := bind_ok hr
    obtain ⟨found', r₁', haccept', hr'⟩ := bind_ok hr'
    obtain ⟨rfl, halike₁⟩ := accept_same halike haccept haccept' fun hfound hnil => by
      subst hfound
      rcases hmore with hneeds | hhead
      · exact absurd hnil (hneeds _ _ _ hr)
      · have honward := (hg hn haccept).onward (Nat.le_refl _) hr
        exact hhead (hend.resolve_right fun hne => honward.ne_nil hne hnil)
    exact (hg hn haccept).same (Nat.le_refl _) halike₁ hr hr' hend

theorem Fails.needs {f : Parse α} (h : Fails f) : Needs f := fun r a s hf => absurd hf (h r a s)

theorem Fails.bind {f : Parse α} (h : Fails f) (g : α → Parse β) : Fails (f >>= g) := by
  intro r b s hr
  obtain ⟨a, r₁, hf, -⟩ := bind_ok hr
  exact h r a r₁ hf

theorem Needs.bind {f : Parse α} (h : Needs f) (g : α → Parse β) : Needs (f >>= g) := by
  intro r b s hr
  obtain ⟨a, r₁, hf, -⟩ := bind_ok hr
  exact h r a r₁ hf

theorem needs_get_bind {g : Reader → Parse β} (h : ∀ r, Needs (g r)) : Needs (get >>= g) :=
  fun r b s hr => h r r b s hr

/-- A step that looks for a code point and fails at the end of the pattern if it is not there. -/
theorem needs_accept {c : CodePoint} {g : Bool → Parse β} (h : Needs (g false)) :
    Needs (accept c >>= g) := by
  intro r b s hr hnil
  obtain ⟨found, r₁, haccept, hg⟩ := bind_ok hr
  rcases accept_ok haccept with ⟨rfl, -, rfl⟩ | ⟨ts, pos, -, hrest, -⟩
  · exact h _ _ _ hg hnil
  · rw [hnil] at hrest
    cases hrest

/-- A token that is looked at and then taken in any case. -/
theorem peek_bind {k g : Option Token → Parse β} (hnone : k none = g none)
    (hsome : ∀ t, k (some t) = (next >>= fun _ => g (some t))) : (peek >>= k) = (next >>= g) := by
  funext r
  have hpeek : peek r = .ok (r.rest.head?, r) := rfl
  rw [bind_eq hpeek]
  cases hr : r.rest with
  | nil =>
    have hnext : next r = .ok (none, r) := by
      simp only [next, bind, StateT.bind, Except.bind, get, getThe, MonadStateOf.get,
        StateT.get, pure, Except.pure, hr]
      rfl
    rw [bind_eq hnext]
    exact congrFun hnone r
  | cons t ts =>
    rw [List.head?_cons, hsome]
    cases hnext : next r with
    | error e => simp only [bind, StateT.bind, Except.bind, hnext]
    | ok x =>
      obtain ⟨o, s⟩ := x
      rw [bind_eq hnext, bind_eq hnext]
      rcases next_ok hnext with ⟨-, hnil, -⟩ | ⟨t', ts', pos, rfl, hcons, -, -⟩
      · rw [hr] at hnil
        cases hnil
      · rw [hr] at hcons
        rw [(List.cons.inj hcons).1]

/-! ## Names and comments -/

theorem agrees_nameUntil (terminator : CodePoint) (kind : Text) {read : Text} {fuel fuel' : Nat}
    (hfuel : n < fuel) (hfuel' : n < fuel') :
    Agrees toEnd more n (nameUntil terminator kind read fuel)
      (nameUntil terminator kind read fuel') := by
  induction fuel generalizing fuel' n read with
  | zero => exact absurd hfuel (Nat.not_lt_zero _)
  | succ fuel ih =>
    obtain ⟨fuel', rfl⟩ := Nat.exists_eq_add_of_lt (Nat.zero_lt_of_lt hfuel')
    rw [Nat.zero_add] at hfuel' ⊢
    rw [nameUntil, nameUntil]
    refine .next (fun m hm t => ?_) ?_
    · dsimp only
      split
      · split
        · exact (fails_fail _ _).agrees _
        · exact agrees_pure _
      · exact ih (by omega) (by omega)
    · dsimp only
      split
      · exact fails_fail _ _
      · exact fails_fail _ _

theorem agrees_nameTo (terminator : CodePoint) (kind : Text) :
    Agrees toEnd more n (nameTo terminator kind) (nameTo terminator kind) := by
  refine .get_bind fun r r' _ halike => agrees_nameUntil _ _ (Nat.lt_succ_self _) ?_
  rw [halike.length]
  omega

theorem agrees_groupName (terminator : CodePoint) :
    Agrees toEnd more n (groupName terminator) (groupName terminator) := by
  refine (agrees_nameTo _ _).bind fun name => ?_
  split
  · exact agrees_pure _
  · exact (fails_fail _ _).agrees _

theorem skipComment_succ (start fuel : Nat) : skipComment start (fuel + 1) = (next >>= fun t? =>
    t?.elim (failAt start .unterminatedComment)
      fun t => if t = .plain ')' then pure () else skipComment start fuel) :=
  peek_bind rfl fun _ => rfl

theorem agrees_skipComment (start start' : Nat) {fuel fuel' : Nat} (hfuel : n < fuel)
    (hfuel' : n < fuel') :
    Agrees toEnd more n (skipComment start fuel) (skipComment start' fuel') := by
  induction fuel generalizing fuel' n with
  | zero => exact absurd hfuel (Nat.not_lt_zero _)
  | succ fuel ih =>
    obtain ⟨fuel', rfl⟩ := Nat.exists_eq_add_of_lt (Nat.zero_lt_of_lt hfuel')
    rw [Nat.zero_add] at hfuel' ⊢
    rw [skipComment_succ, skipComment_succ]
    refine .next (fun m hm t => ?_) (fails_failAt _ _)
    dsimp only [Option.elim_some]
    split
    · exact agrees_pure _
    · exact ih (by omega) (by omega)

/-- A comment in a line may go on behind the end of the pattern. -/
theorem agrees_skipLine {fuel fuel' : Nat} (hfuel : n < fuel) (hfuel' : n < fuel') :
    Agrees false more n (skipLine fuel) (skipLine fuel') := by
  induction fuel generalizing fuel' n with
  | zero => exact absurd hfuel (Nat.not_lt_zero _)
  | succ fuel ih =>
    obtain ⟨fuel', rfl⟩ := Nat.exists_eq_add_of_lt (Nat.zero_lt_of_lt hfuel')
    rw [Nat.zero_add] at hfuel' ⊢
    rw [skipLine, skipLine]
    refine .next_or (fun m hm t => ?_) (fun r b s hnil h => ?_)
    · dsimp only
      split
      · exact agrees_pure _
      · exact ih (by omega) (by omega)
    · cases h
      exact ⟨rfl, hnil⟩

end LineSift.Regex.Parse
