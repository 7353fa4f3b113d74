import LineSift.Proofs.Regex.Parts
import LineSift.Proofs.Text.Escape

/-!
# Errors beyond the grammar

A pattern can be refused although its grammar is right, and then the reason stands in its tokens
(`Evident`): an escape with the number of no code point, a bound of a repetition that is too large,
or flags for the whole pattern that exclude each other.  A reader keeps track of the tokens it has
taken last (`Reads`); so a step that gives up finds the reason among them (`Foresees`).
-/

namespace LineSift.Regex

/-- A flag is given for the whole pattern: a group of flags for it contains its letter. -/
def Sets (all : List Token) (f : Flag) : Prop :=
  ∃ letters : Text, (∀ c ∈ letters, (Flag.ofLetter? c).isSome) ∧
    f ∈ letters.filterMap Flag.ofLetter? ∧
    [.plain '(', .plain '?'] ++ letters.map .plain ++ [.plain ')'] <:+: all

/-- Where a bound of a repetition stands: behind the opening brace, or behind the comma. -/
def IsBound (all : List Token) (digits : Text) : Prop :=
  (∀ d ∈ digits, d.isAsciiDigit = true) ∧
    ∃ t, (t = .plain '\x7b' ∨ t = .plain ',') ∧ t :: digits.map .plain <:+: all

/-- The reason for an error stands in the tokens of a pattern, unless it is a matter of
the grammar. -/
inductive Evident (all : List Token) : Error → Prop
  | malformed (problem : Problem) (pos : Option Nat) : Evident all (.malformed problem pos)
  | hugeCodePoint {digits : Text} : (.escaped 'U' :: digits.map .plain) <:+: all →
      digits.length = 8 → (∀ d ∈ digits, d.isHexDigit = true) →
      0x80000000 ≤ Text.digitsValue 16 digits → Evident all .hugeCodePoint
  | hugeRepeat {digits : Text} : IsBound all digits →
      Width.unbounded ≤ Text.digitsValue 10 digits → Evident all .hugeRepeat
  | hugeNumeral {digits : Text} : IsBound all digits → 4300 < digits.length →
      Evident all (.hugeNumeral digits.length)
  | flagClash : Sets all .ascii → Sets all .unicode → Evident all .flagClash

namespace Parse

variable {α β : Type} {all last : List Token}

/-- A reader within the tokens `all` of a pattern, behind the tokens `last`.  The flags for the
whole pattern have been read in it. -/
structure Reads (all last : List Token) (r : Reader) : Prop where
  place : last ++ r.rest <:+ all
  flags : ∀ f ∈ r.flags, Sets all f

/-- A step behind given tokens stays within the pattern; if it fails, the reason is in
the pattern. -/
structure Foresees (all last : List Token) (f : Parse α) : Prop where
  ok {r s : Reader} {a : α} : Reads all last r → f r = .ok (a, s) → Reads all [] s
  error {r : Reader} {e : Error} : Reads all last r → f r = .error e → Evident all e

namespace Reads

variable {r : Reader}

/-- Less can be kept in view than was taken last. -/
theorem forget (h : Reads all last r) : Reads all [] r where
  place := (List.suffix_append _ _).trans h.place
  flags := h.flags

theorem drop {front : List Token} (h : Reads all (front ++ last) r) : Reads all last r where
  place := by
    have hplace := h.place
    rw [List.append_assoc] at hplace
    exact (List.suffix_append _ _).trans hplace
  flags := h.flags

/-- What was taken last stands in the pattern. -/
theorem stands (h : Reads all last r) : last <:+: all :=
  (List.prefix_append _ _).isInfix.trans h.place.isInfix

/-- What is taken next comes into view behind it. -/
theorem take (h : Reads all last r) (used : List Token) {ts : List Token} {pos : Nat}
    (hr : r.rest = used ++ ts) :
    Reads all (last ++ used) { r with rest := ts, pos } where
  place := by
    have hplace := h.place
    rwa [hr, ← List.append_assoc] at hplace
  flags := h.flags

end Reads

/-! ## Putting steps together -/

theorem bind_error {f : Parse α} {g : α → Parse β} {r : Reader} {e : Error}
    (h : (f >>= g) r = .error e) : f r = .error e ∨ ∃ a s, f r = .ok (a, s) ∧ g a s = .error e := by
  cases hf : f r with
  | error e' =>
    simp only [bind, StateT.bind, Except.bind, hf] at h
    cases h
    exact Or.inl rfl
  | ok x =>
    simp only [bind, StateT.bind, Except.bind, hf] at h
    exact Or.inr ⟨x.1, x.2, rfl, h⟩

theorem foresees_pure (a : α) : Foresees all last (pure a : Parse α) where
  ok := by
    intro r s b hr h
    cases h
    exact hr.forget
  error := by
    intro r e _ h
    cases h

/-- An error that the tokens tell may be raised. -/
theorem foresees_throw {e : Error} (h : Evident all e) : Foresees all last (throw e : Parse α) where
  ok := by
    intro r s a _ h
    cases h
  error := by
    intro r e' hr he
    cases he
    exact h

/-- A documented error may be raised anywhere. -/
theorem foresees_failAt (pos : Nat) (problem : Problem) :
    Foresees all last (failAt pos problem : Parse α) :=
  foresees_throw (.malformed _ _)

theorem foresees_fail (problem : Problem) (back : Nat) :
    Foresees all last (fail problem back : Parse α) where
  ok := fun _ h => absurd h (fails_fail _ _ _ _ _)
  error := by
    intro r e _ h
    cases h
    exact .malformed _ _

namespace Foresees

variable {f : Parse α} {g : α → Parse β}

/-- What has been read last stands in the pattern. -/
theorem given (h : last <:+: all → Foresees all last f) : Foresees all last f where
  ok := fun hr => (h hr.stands).ok hr
  error := fun hr => (h hr.stands).error hr

/-- What has been read last can be forgotten. -/
theorem forget (h : Foresees all [] f) : Foresees all last f where
  ok := fun hr => h.ok hr.forget
  error := fun hr => h.error hr.forget

/-- Tokens before those that have been read last can be forgotten. -/
theorem drop {front : List Token} (h : Foresees all last f) : Foresees all (front ++ last) f where
  ok := fun hr => h.ok hr.drop
  error := fun hr => h.error hr.drop

/-- Two steps one after the other, where the second one knows what the first one has taken. -/
theorem bind_at (taken : α → List Token) {P : α → Prop}
    (hf : ∀ {r s a}, Reads all last r → f r = .ok (a, s) → P a ∧ Reads all (last ++ taken a) s)
    (herror : ∀ {r e}, Reads all last r → f r = .error e → Evident all e)
    (hg : ∀ a, P a → Foresees all (last ++ taken a) (g a)) : Foresees all last (f >>= g) where
  ok := by
    intro r s b hr h
    obtain ⟨a, r₁, hfr, hgr⟩ := bind_ok h
    obtain ⟨ha, hr₁⟩ := hf hr hfr
    exact (hg a ha).ok hr₁ hgr
  error := by
    intro r e hr h
    rcases bind_error h with h | ⟨a, r₁, hfr, hgr⟩
    · exact herror hr h
    · obtain ⟨ha, hr₁⟩ := hf hr hfr
      exact (hg a ha).error hr₁ hgr

/-- Behind a step nothing is kept in view, so what follows must do without. -/
theorem bind (hf : Foresees all last f) (hg : ∀ a, Foresees all [] (g a)) :
    Foresees all last (f >>= g) where
  ok := by
    intro r s b hr h
    obtain ⟨a, r₁, hfr, hgr⟩ := bind_ok h
    exact (hg a).ok (hf.ok hr hfr) hgr
  error := by
    intro r e hr h
    rcases bind_error h with h | ⟨a, r₁, hfr, hgr⟩
    · exact hf.error hr h
    · exact (hg a).error (hf.ok hr hfr) hgr

/-- What comes behind a step that gives up does not matter. -/
theorem bind_fails (hf : Foresees all last f) (hfails : Fails f) (g : α → Parse β) :
    Foresees all last (f >>= g) where
  ok := fun _ h => absurd h (hfails.bind g _ _ _)
  error := by
    intro r e hr h
    rcases bind_error h with h | ⟨a, s, hfr, -⟩
    · exact hf.error hr h
    · exact absurd hfr (hfails _ _ _)

/-- What is known of the tokens in view is known of the reader that is looked at. -/
theorem get_bind {g : Reader → Parse β} (h : ∀ r, Reads all last r → Foresees all last (g r)) :
    Foresees all last (get >>= g) where
  ok := fun hr => (h _ hr).ok hr
  error := fun hr => (h _ hr).error hr

theorem set_bind {r : Reader} {g : PUnit → Parse β} (hr : Reads all [] r)
    (h : Foresees all [] (g ⟨⟩)) : Foresees all last (set r >>= g) where
  ok := fun _ => h.ok hr
  error := fun _ => h.error hr

theorem modify_bind {m : Reader → Reader} {g : PUnit → Parse β}
    (hm : ∀ r, Reads all last r → Reads all [] (m r)) (h : Foresees all [] (g ⟨⟩)) :
    Foresees all last (modify m >>= g) where
  ok := fun hr => h.ok (hm _ hr)
  error := fun hr => h.error (hm _ hr)

theorem peek_bind {g : Option Token → Parse β} (h : ∀ o, Foresees all last (g o)) :
    Foresees all last (peek >>= g) where
  ok := fun {r _ _} hr => (h r.rest.head?).ok hr
  error := fun {r _} hr => (h r.rest.head?).error hr

end Foresees

theorem foresees_refuse (problem : Problem) (back : Nat) (g : α → Parse β) :
    Foresees all last (fail problem back >>= g) :=
  (foresees_fail _ _).bind_fails (fails_fail _ _) g

theorem foresees_refuseAt (pos : Nat) (problem : Problem) (g : α → Parse β) :
    Foresees all last (failAt pos problem >>= g) :=
  (foresees_failAt _ _).bind_fails (fails_failAt _ _) g

/-! ## Taking tokens -/

/-- That there is no next token to take is told by the tokens. -/
theorem next_error {r : Reader} {e : Error} (h : next r = .error e) : Evident all e := by
  cases hr : r.rest with
  | nil =>
    simp only [next, bind, StateT.bind, Except.bind, get, getThe, MonadStateOf.get,
      StateT.get, pure, Except.pure, hr] at h
    cases h
  | cons t ts =>
    simp only [next, bind, StateT.bind, Except.bind, get, getThe, MonadStateOf.get,
      StateT.get, pure, Except.pure, hr] at h
    split at h
    · cases h
      exact .malformed _ _
    · cases h

theorem accept_error {c : CodePoint} {r : Reader} {e : Error} (h : accept c r = .error e) :
    Evident all e := by
  unfold accept at h
  rcases bind_error h with h | ⟨o, s, -, h⟩
  · cases h
  · split at h
    · rcases bind_error h with h | ⟨_, _, -, h⟩
      · exact next_error h
      · cases h
    · cases h

theorem takeWhile_error {p : CodePoint → Bool} {k : Nat} {r : Reader} {e : Error}
    (h : takeWhile p k r = .error e) : Evident all e := by
  induction k generalizing r with
  | zero => cases h
  | succ k ih =>
    rw [takeWhile] at h
    rcases bind_error h with h | ⟨o, s, -, h⟩
    · cases h
    cases hc : o.bind Token.plain? with
    | none =>
      rw [hc] at h
      cases h
    | some c =>
      rw [hc] at h
      dsimp only at h
      split at h
      · rcases bind_error h with h | ⟨_, _, -, h⟩
        · exact next_error h
        rcases bind_error h with h | ⟨_, _, -, h⟩
        · exact ih h
        · cases h
      · cases h

namespace Foresees

/-- The next token comes into view, if there is one. -/
theorem next {g : Option Token → Parse β} (h : ∀ t, Foresees all (last ++ [t]) (g (some t)))
    (hnone : Foresees all last (g none)) : Foresees all last (Parse.next >>= g) := by
  refine bind_at Option.toList (P := fun _ => True) ?_ (fun _ => next_error) ?_
  · intro r s o hr hnext
    refine ⟨trivial, ?_⟩
    rcases next_ok hnext with ⟨rfl, -, rfl⟩ | ⟨t, ts, pos, rfl, hrest, -, rfl⟩
    · rwa [Option.toList_none, List.append_nil]
    · exact hr.take [t] hrest
  · intro o _
    cases o with
    | none => rwa [Option.toList_none, List.append_nil]
    | some t => exact h t

/-- A token that is accepted comes into view. -/
theorem accept {c : CodePoint} {g : Bool → Parse β}
    (htrue : Foresees all (last ++ [.plain c]) (g true)) (hfalse : Foresees all last (g false)) :
    Foresees all last (Parse.accept c >>= g) := by
  refine bind_at (fun b => if b then [.plain c] else []) (P := fun _ => True) ?_ ?_ ?_
  · intro r s b hr haccept
    refine ⟨trivial, ?_⟩
    rcases accept_ok haccept with ⟨rfl, -, rfl⟩ | ⟨ts, pos, rfl, hrest, -, rfl⟩
    · rwa [if_neg Bool.false_ne_true, List.append_nil]
    · exact hr.take [.plain c] hrest
  · intro r e _ he
    exact accept_error he
  · intro b _
    cases b with
    | false => rwa [if_neg Bool.false_ne_true, List.append_nil]
    | true => exact htrue

/-- The code points that are taken come into view, no more of them than are allowed. -/
theorem takeWhile {p : CodePoint → Bool} {k : Nat} {g : Text → Parse β}
    (h : ∀ ds : Text, (∀ d ∈ ds, p d = true) → ds.length ≤ k →
      Foresees all (last ++ ds.map .plain) (g ds)) :
    Foresees all last (Parse.takeWhile p k >>= g) := by
  refine bind_at _ (P := fun ds => (∀ d ∈ ds, p d = true) ∧ ds.length ≤ k) ?_
    (fun _ => takeWhile_error) fun ds hds => h ds hds.1 hds.2
  intro r s ds hr htake
  obtain ⟨pos, hrest, -, hs, hrun⟩ := takeWhile_ok htake
  rw [hs]
  exact ⟨⟨hrun.all, hrun.length⟩, hr.take _ hrest⟩

theorem takeAll {p : CodePoint → Bool} {g : Text → Parse β}
    (h : ∀ ds : Text, (∀ d ∈ ds, p d = true) → Foresees all (last ++ ds.map .plain) (g ds)) :
    Foresees all last (Parse.takeAll p >>= g) := by
  refine bind_at _ (P := fun ds => ∀ d ∈ ds, p d = true) ?_ ?_ h
  · intro r s ds hr htake
    obtain ⟨pos, hrest, -, hs, hrun⟩ := takeAll_ok htake
    rw [hs]
    exact ⟨(hrun _ (Nat.le_refl _)).all, hr.take _ hrest⟩
  · intro r e _ he
    exact takeWhile_error (k := r.rest.length) he

end Foresees

end Parse

end LineSift.Regex
