import LineSift.Regex.Parser

/-!
# Reading that does not look behind its end

A step in reading a pattern takes tokens and gives a result.  If it stops before the end of the
pattern, it has seen all it needed: whatever stands behind, it takes the same tokens and gives the
same result (`Steady`).  This is true of all that a set of code points is read by, and a set that is
closed by the last bracket of a pattern is read in the same way within a longer pattern
(`bracketSet_takes`).
-/

namespace LineSift.Regex.Parse

variable {α β : Type}

/-- In front of some tokens, a step takes given tokens and gives a result.  It changes nothing else
in the reader but the position. -/
def Takes (f : Parse α) (used : List Token) (a : α) (after : List Token) : Prop :=
  ∀ r : Reader, r.rest = used ++ after → ∃ pos, f r = .ok (a, { r with rest := after, pos })

/-- If a step succeeds before the end of a pattern, it succeeds in the same way in front of other
tokens. -/
def Steady (f : Parse α) : Prop :=
  ∀ r a r', f r = .ok (a, r') →
    ∃ used, r.rest = used ++ r'.rest ∧
      (r'.rest ≠ [] → ∀ more, Takes f used a (r'.rest ++ more))

/-- A step that never succeeds. -/
def Fails (f : Parse α) : Prop := ∀ r a r', f r ≠ .ok (a, r')

theorem bind_ok {f : Parse α} {g : α → Parse β} {r r'' : Reader} {b : β}
    (h : (f >>= g) r = .ok (b, r'')) : ∃ a r', f r = .ok (a, r') ∧ g a r' = .ok (b, r'') := by
  cases hf : f r with
  | error e =>
    simp only [bind, StateT.bind, Except.bind, hf] at h
    cases h
  | ok x =>
    obtain ⟨a, r'⟩ := x
    simp only [bind, StateT.bind, Except.bind, hf] at h
    exact ⟨a, r', rfl, h⟩

theorem bind_eq {f : Parse α} {g : α → Parse β} {r r' : Reader} {a : α}
    (h : f r = .ok (a, r')) : (f >>= g) r = g a r' := by
  simp only [bind, StateT.bind, Except.bind, h]

theorem ne_nil_of_getLast? {ts : List Token} {t : Token} (h : ts.getLast? = some t) : ts ≠ [] := by
  rintro rfl
  cases h

/-- Tokens that are not a last backslash are none with others behind them. -/
theorem append_ne_dangling {ts : List Token} (hne : ts ≠ []) (h : ts ≠ [.dangling])
    (more : List Token) : ts ++ more ≠ [.dangling] := by
  intro he
  obtain ⟨t, ts, rfl⟩ := List.exists_cons_of_ne_nil hne
  obtain ⟨rfl, htail⟩ := List.cons.inj he
  obtain ⟨rfl, -⟩ := List.append_eq_nil_iff.mp htail
  exact h rfl

/-! ## Taking tokens -/

theorem takes_pure (a : α) (after : List Token) : Takes (pure a) [] a after :=
  fun r hr => ⟨r.pos, by rw [List.nil_append] at hr; rw [← hr]; rfl⟩

theorem Takes.bind {f : Parse α} {g : α → Parse β} {used used' after : List Token} {a : α} {b : β}
    (hf : Takes f used a (used' ++ after)) (hg : Takes (g a) used' b after) :
    Takes (f >>= g) (used ++ used') b after := by
  intro r hr
  obtain ⟨pos, hf⟩ := hf r (by rw [hr, List.append_assoc])
  obtain ⟨pos', hg⟩ := hg { r with rest := used' ++ after, pos } rfl
  exact ⟨pos', by rw [bind_eq hf, hg]⟩

/-- A step before which nothing is taken. -/
theorem Takes.bind_right {f : Parse α} {g : α → Parse β} {used after : List Token} {a : α} {b : β}
    (hf : Takes f [] a (used ++ after)) (hg : Takes (g a) used b after) :
    Takes (f >>= g) used b after :=
  hf.bind hg

/-- A step behind which nothing is taken. -/
theorem Takes.bind_left {f : Parse α} {g : α → Parse β} {used after : List Token} {a : α} {b : β}
    (hf : Takes f used a after) (hg : Takes (g a) [] b after) : Takes (f >>= g) used b after := by
  have h : Takes (f >>= g) (used ++ []) b after := hf.bind hg
  rwa [List.append_nil] at h

theorem takes_next (t : Token) {after : List Token} (h : after ≠ [.dangling]) :
    Takes next [t] (some t) after := by
  intro r hr
  refine ⟨r.pos + t.width, ?_⟩
  simp only [next, bind, StateT.bind, Except.bind, get, getThe, MonadStateOf.get, StateT.get, pure,
    Except.pure, hr, List.singleton_append, h, if_false]
  rfl

theorem takes_peek (after : List Token) : Takes peek [] after.head? after := by
  intro r hr
  rw [List.nil_append] at hr
  exact ⟨r.pos, by rw [← hr]; rfl⟩

theorem takes_accept_other {c : CodePoint} {after : List Token}
    (h : after.head? ≠ some (.plain c)) : Takes (accept c) [] false after := by
  refine (takes_peek after).bind_left ?_
  rw [if_neg h]
  exact takes_pure false after

/-! ## Steady steps -/

theorem Fails.steady {f : Parse α} (h : Fails f) : Steady f :=
  fun r a r' hf => absurd hf (h r a r')

theorem fails_failAt (pos : Nat) (problem : Problem) : Fails (failAt pos problem : Parse α) :=
  fun _ _ _ h => by cases h

theorem fails_fail (problem : Problem) (back : Nat) : Fails (fail problem back : Parse α) :=
  fun _ _ _ h => by cases h

theorem fails_throw (e : Error) : Fails (throw e : Parse α) := fun _ _ _ h => by cases h

theorem steady_pure (a : α) : Steady (pure a : Parse α) := by
  intro r b r' h
  cases h
  exact ⟨[], rfl, fun _ more => takes_pure a _⟩

theorem Steady.bind {f : Parse α} {g : α → Parse β} (hf : Steady f) (hg : ∀ a, Steady (g a)) :
    Steady (f >>= g) := by
  intro r b r'' h
  obtain ⟨a, r', h₁, h₂⟩ := bind_ok h
  obtain ⟨used, hr, htakes⟩ := hf r a r' h₁
  obtain ⟨used', hr', htakes'⟩ := hg a r' b r'' h₂
  refine ⟨used ++ used', by rw [hr, hr', List.append_assoc], fun hne more => ?_⟩
  have hne' : r'.rest ≠ [] := by
    rw [hr']
    exact List.append_ne_nil_of_right_ne_nil _ hne
  have h₁ := htakes hne' more
  rw [hr', List.append_assoc] at h₁
  exact h₁.bind (htakes' hne more)

theorem steady_peek : Steady peek := by
  intro r a r' h
  cases h
  refine ⟨[], rfl, fun hne more => ?_⟩
  have hhead : r.rest.head? = (r.rest ++ more).head? := by
    cases hr : r.rest with
    | nil => exact absurd hr hne
    | cons t ts => rfl
  rw [hhead]
  exact takes_peek _

theorem steady_next : Steady next := by
  intro r a r' h
  cases hr : r.rest with
  | nil =>
    simp only [next, bind, StateT.bind, Except.bind, get, getThe, MonadStateOf.get,
      StateT.get, pure, Except.pure, hr] at h
    cases h
    exact ⟨[], by rw [List.nil_append, hr], fun hne => absurd hr hne⟩
  | cons t ts =>
    simp only [next, bind, StateT.bind, Except.bind, get, getThe, MonadStateOf.get,
      StateT.get, pure, Except.pure, hr] at h
    split at h
    · cases h
    · next hdangling =>
      cases h
      exact ⟨[t], rfl, fun hne more => takes_next t (append_ne_dangling hne hdangling more)⟩

theorem steady_accept (c : CodePoint) : Steady (accept c) := by
  refine steady_peek.bind fun t => ?_
  split
  · exact steady_next.bind fun _ => steady_pure true
  · exact steady_pure false

theorem steady_takeWhile (p : CodePoint → Bool) (n : Nat) : Steady (takeWhile p n) := by
  induction n with
  | zero => exact steady_pure []
  | succ n ih =>
    refine steady_peek.bind fun t => ?_
    split
    · split
      · exact steady_next.bind fun _ => ih.bind fun _ => steady_pure _
      · exact steady_pure []
    · exact steady_pure []

theorem steady_numbered (written : Text) (n : Nat) : Steady (numbered written n) := by
  unfold numbered
  split
  · exact steady_pure _
  · split
    · exact (fails_fail _ _).steady
    · exact (fails_throw _).steady

theorem steady_hexEscape (letter : CodePoint) (count : Nat) : Steady (hexEscape letter count) := by
  refine (steady_takeWhile _ _).bind fun digits => ?_
  dsimp only
  split
  · exact steady_numbered _ _
  · exact (fails_fail _ _).steady

theorem steady_octal (digits : Text) : Steady (octal digits) := by
  unfold octal
  dsimp only
  split
  · exact steady_pure _
  · exact (fails_fail _ _).steady

theorem steady_itself (c : CodePoint) : Steady (itself c) := by
  unfold itself
  split
  · exact (fails_fail _ _).steady
  · exact steady_pure c

/-! ## Loops over tokens -/

theorem next_cases {r r' : Reader} {o : Option Token} (h : next r = .ok (o, r')) :
    (o = none ∧ r.rest = [] ∧ r'.rest = []) ∨
      ∃ t, o = some t ∧ r.rest = t :: r'.rest ∧ r'.rest ≠ [.dangling] := by
  cases hr : r.rest with
  | nil =>
    simp only [next, bind, StateT.bind, Except.bind, get, getThe, MonadStateOf.get,
      StateT.get, pure, Except.pure, hr] at h
    cases h
    exact Or.inl ⟨rfl, rfl, hr⟩
  | cons t ts =>
    simp only [next, bind, StateT.bind, Except.bind, get, getThe, MonadStateOf.get,
      StateT.get, pure, Except.pure, hr] at h
    split at h
    · cases h
    · next hdangling =>
      cases h
      exact Or.inr ⟨t, rfl, rfl, hdangling⟩

theorem Takes.get_bind {g : Reader → Parse β} {used after : List Token} {b : β}
    (h : ∀ r : Reader, r.rest = used ++ after → Takes (g r) used b after) :
    Takes (get >>= g) used b after := by
  intro r hr
  obtain ⟨pos, hg⟩ := h r hr r hr
  exact ⟨pos, hg⟩

/-- The name up to a terminator is the same whatever stands behind the terminator. -/
theorem nameUntil_takes (terminator : CodePoint) (kind : Text) {n : Nat} {read name : Text}
    {r r' : Reader} (hn : r.rest.length < n)
    (h : nameUntil terminator kind read n r = .ok (name, r')) :
    ∃ used, r.rest = used ++ r'.rest ∧ (r'.rest ≠ [] → ∀ more n',
      used.length ≤ n' → Takes (nameUntil terminator kind read n') used name
        (r'.rest ++ more)) := by
  induction n generalizing read r with
  | zero => exact absurd hn (Nat.not_lt_zero _)
  | succ n ih =>
    rw [nameUntil] at h
    obtain ⟨o, r₁, hnext, h⟩ := bind_ok h
    rcases next_cases hnext with ⟨rfl, -, -⟩ | ⟨t, rfl, hr, hdangling⟩
    · dsimp only at h
      split at h
      · exact absurd h (fails_fail _ _ _ _ _)
      · exact absurd h (fails_fail _ _ _ _ _)
    · dsimp only at h
      split at h
      · next ht =>
        split at h
        · exact absurd h (fails_fail _ _ _ _ _)
        · next hread =>
          cases h
          refine ⟨[t], hr, fun hne more n' hn' => ?_⟩
          obtain ⟨n', rfl⟩ : ∃ m, n' = m + 1 := ⟨n' - 1, by simp at hn'; omega⟩
          rw [nameUntil]
          refine (takes_next t (append_ne_dangling hne hdangling more)).bind_left ?_
          dsimp only
          rw [if_pos ht, if_neg hread]
          exact takes_pure _ _
      · next ht =>
        rw [hr, List.length_cons] at hn
        obtain ⟨used, hr₁, htakes⟩ := ih (Nat.lt_of_succ_lt_succ hn) h
        refine ⟨t :: used, by rw [hr, hr₁]; rfl, fun hne more n' hn' => ?_⟩
        obtain ⟨n', rfl⟩ : ∃ m, n' = m + 1 := ⟨n' - 1, by simp at hn'; omega⟩
        have hafter : used ++ (r'.rest ++ more) ≠ [.dangling] := by
          rw [hr₁] at hdangling
          rw [← List.append_assoc]
          exact append_ne_dangling (List.append_ne_nil_of_right_ne_nil _ hne) hdangling more
        rw [nameUntil]
        refine (takes_next t hafter).bind ?_
        dsimp only
        rw [if_neg ht]
        exact htakes hne more n' (Nat.le_of_succ_le_succ hn')

theorem steady_nameTo (terminator : CodePoint) (kind : Text) : Steady (nameTo terminator kind) := by
  intro r name r' h
  obtain ⟨used, hr, htakes⟩ := nameUntil_takes terminator kind (Nat.lt_succ_self _) h
  refine ⟨used, hr, fun hne more => Takes.get_bind fun r hr => ?_⟩
  refine htakes hne more _ ?_
  rw [hr, List.length_append]
  omega

theorem steady_namedEscape : Steady namedEscape := by
  refine (steady_accept _).bind fun brace => ?_
  split
  · refine (steady_nameTo _ _).bind fun name => ?_
    split
    · exact steady_pure _
    · exact (fails_fail _ _).steady
  · exact (fails_fail _ _).steady

theorem steady_codeEscape {c : CodePoint} {step : Parse CodePoint} (h : codeEscape? c = some step) :
    Steady step := by
  unfold codeEscape? at h
  split at h
  · cases h
    exact steady_hexEscape _ _
  · split at h
    · cases h
      exact steady_hexEscape _ _
    · split at h
      · cases h
        exact steady_hexEscape _ _
      · split at h
        · cases h
          exact steady_namedEscape
        · cases h

theorem steady_memberEscape (c : CodePoint) : Steady (memberEscape c) := by
  unfold memberEscape
  split
  · exact steady_pure _
  · split
    · exact steady_pure _
    · split
      · next step hstep => exact (steady_codeEscape hstep).bind fun _ => steady_pure _
      · split
        · exact (steady_takeWhile _ _).bind fun _ => (steady_octal _).bind fun _ => steady_pure _
        · exact (steady_itself _).bind fun _ => steady_pure _

theorem steady_member (t : Token) : Steady (member t) := by
  cases t with
  | plain c => exact steady_pure _
  | escaped c => exact steady_memberEscape c
  | dangling => exact steady_pure _

/-! ## Sets -/

/-- What is done behind the first code point or class of a member: a range is read if there is a
dash, and then the further members. -/
def setTail (asciiOnly : Bool) (read : List SetItem) (t : Token) (first : Member) (dash : Bool)
    (start n : Nat) : Parse (List SetItem) :=
  if dash then do
    let some u ← next | failAt start .unterminatedSet
    if u = .plain ']' then
      return read ++ [first.toItem asciiOnly, .single '-']
    let second ← member u
    let bad : Parse (List SetItem) := fail (.badRange t.text u.text) (t.width + 1 + u.width)
    match first, second with
    | .code lo, .code hi =>
      if hi < lo then bad else setItems asciiOnly start (read ++ [.range lo hi]) n
    | _, _ => bad
  else setItems asciiOnly start (read ++ [first.toItem asciiOnly]) n

theorem setItems_succ (asciiOnly : Bool) (start : Nat) (read : List SetItem) (n : Nat) :
    setItems asciiOnly start read (n + 1) = (do
      let some t ← next | failAt start .unterminatedSet
      if t = .plain ']' ∧ read ≠ [] then return read
      let first ← member t
      let dash ← accept '-'
      setTail asciiOnly read t first dash start n) := rfl

/-- Reading members of a set has taken tokens up to the bracket that closes the set, and does so
whatever stands behind the bracket, if the bound on the number of tokens is large enough. -/
def Closes (k : Nat) (f : Nat → Nat → Parse (List SetItem)) (items : List SetItem)
    (before after : List Token) : Prop :=
  ∃ used, before = used ++ after ∧ used.getLast? = some (.plain ']') ∧ ∀ more start n,
    after ++ more ≠ [.dangling] → used.length ≤ n + k → Takes (f start n) used items (after ++ more)

section

variable {k : Nat} {items : List SetItem} {before after : List Token}

theorem Closes.weaken {f : Nat → Nat → Parse (List SetItem)}
    (h : Closes (k + 1) f items before after) :
    Closes k f items before after := by
  obtain ⟨used, hbefore, hlast, htakes⟩ := h
  exact ⟨used, hbefore, hlast, fun more start n hmore hn =>
    htakes more start n hmore (Nat.le_succ_of_le hn)⟩

/-- The token that ends the reading. -/
theorem closes_last {g : Nat → Nat → Option Token → Parse (List SetItem)}
    (hbefore : before = .plain ']' :: after)
    (hg : ∀ start n, g start n (some (.plain ']')) = pure items) :
    Closes k (fun start n => next >>= g start n) items before after := by
  refine ⟨[.plain ']'], hbefore, rfl, fun more start n hmore _ => ?_⟩
  refine (takes_next _ hmore).bind_left ?_
  rw [hg]
  exact takes_pure _ _

/-- A token before further ones. -/
theorem Closes.next {g : Nat → Nat → Option Token → Parse (List SetItem)} {t : Token}
    {mid : List Token} (hbefore : before = t :: mid) (hmid : mid ≠ [.dangling])
    (h : Closes k (fun start n => g start n (some t)) items mid after) :
    Closes (k + 1) (fun start n => next >>= g start n) items before after := by
  obtain ⟨used, rfl, hlast, htakes⟩ := h
  have hne : used ≠ [] := ne_nil_of_getLast? hlast
  refine ⟨t :: used, hbefore, by rw [List.getLast?_cons_of_ne_nil hne, hlast],
    fun more start n hmore hn => ?_⟩
  have hafter : used ++ (after ++ more) ≠ [.dangling] := by
    rw [← List.append_assoc]
    exact append_ne_dangling (List.append_ne_nil_of_left_ne_nil hne _) hmid more
  refine (takes_next t hafter).bind ?_
  exact htakes more start n hmore (Nat.le_of_succ_le_succ hn)

/-- A steady step before further ones. -/
theorem Closes.step {f : Parse α} (hs : Steady f) {g : Nat → Nat → α → Parse (List SetItem)}
    {r r' : Reader} {a : α} (hf : f r = .ok (a, r'))
    (h : Closes k (fun start n => g start n a) items r'.rest after) :
    Closes k (fun start n => f >>= g start n) items r.rest after := by
  obtain ⟨used, hr', hlast, htakes⟩ := h
  obtain ⟨used', hr, htakes'⟩ := hs r a r' hf
  have hrest : r'.rest ≠ [] := by
    rw [hr']
    exact List.append_ne_nil_of_left_ne_nil (ne_nil_of_getLast? hlast) _
  refine ⟨used' ++ used, by rw [hr, hr', List.append_assoc],
    by rw [List.getLast?_append, hlast, Option.some_or], fun more start n hmore hn => ?_⟩
  have h' := htakes' hrest more
  rw [hr', List.append_assoc] at h'
  refine h'.bind (htakes more start n hmore ?_)
  rw [List.length_append] at hn
  omega

end

/-- Behind the first code point or class of a member, if the further members are read so. -/
theorem setTail_closes (asciiOnly : Bool) {start n : Nat} {read items : List SetItem} {t : Token}
    {first : Member} {dash : Bool} {r r' : Reader}
    (hloop : ∀ {read : List SetItem} {r : Reader}, r.rest.length < n →
      setItems asciiOnly start read n r = .ok (items, r') →
      Closes 0 (fun start n => setItems asciiOnly start read n) items r.rest r'.rest)
    (hn : r.rest.length < n) (h : setTail asciiOnly read t first dash start n r = .ok (items, r')) :
    Closes 0 (fun start n => setTail asciiOnly read t first dash start n) items r.rest r'.rest := by
  cases dash with
  | false => exact hloop hn h
  | true =>
    simp only [setTail, if_true] at h ⊢
    obtain ⟨o, r₁, hnext, h⟩ := bind_ok h
    rcases next_cases hnext with ⟨rfl, -, -⟩ | ⟨u, rfl, hr, hdangling⟩
    · exact absurd h (fails_failAt _ _ _ _ _)
    dsimp only at h
    by_cases hu : u = .plain ']'
    · rw [if_pos hu] at h
      cases h
      subst hu
      exact closes_last hr fun start n => if_pos rfl
    · rw [if_neg hu] at h
      obtain ⟨second, r₂, hsecond, h⟩ := bind_ok h
      refine (Closes.next hr hdangling ?_).weaken
      simp only [if_neg hu]
      refine .step (steady_member u) hsecond ?_
      obtain ⟨_, hr₁, -⟩ := steady_member u r₁ second r₂ hsecond
      cases first with
      | category _ _ => exact absurd h (fails_fail _ _ _ _ _)
      | code lo =>
        cases second with
        | category _ _ => exact absurd h (fails_fail _ _ _ _ _)
        | code hi =>
          dsimp only at h ⊢
          by_cases hle : hi < lo
          · rw [if_pos hle] at h
            exact absurd h (fails_fail _ _ _ _ _)
          · rw [if_neg hle] at h
            simp only [if_neg hle]
            refine hloop ?_ h
            rw [hr, hr₁, List.length_cons, List.length_append] at hn
            omega

/-- The members of a set are read in the same way whatever stands behind the bracket that
closes it. -/
theorem setItems_closes (asciiOnly : Bool) {start : Nat} {n : Nat} {read items : List SetItem}
    {r r' : Reader} (hn : r.rest.length < n)
    (h : setItems asciiOnly start read n r = .ok (items, r')) :
    Closes 0 (fun start n => setItems asciiOnly start read n) items r.rest r'.rest := by
  induction n generalizing read r with
  | zero => exact absurd hn (Nat.not_lt_zero _)
  | succ n ih =>
    suffices hsucc : Closes 1 (fun start n => setItems asciiOnly start read (n + 1)) items r.rest
        r'.rest by
      obtain ⟨used, hr, hlast, htakes⟩ := hsucc
      refine ⟨used, hr, hlast, fun more start n hmore hn => ?_⟩
      cases n with
      | zero =>
        have hnil : used = [] := List.length_eq_zero_iff.mp (Nat.le_zero.mp hn)
        exact absurd hnil (ne_nil_of_getLast? hlast)
      | succ n => exact htakes more start n hmore hn
    rw [setItems_succ] at h
    simp only [setItems_succ]
    obtain ⟨o, r₁, hnext, h⟩ := bind_ok h
    rcases next_cases hnext with ⟨rfl, -, -⟩ | ⟨t, rfl, hr, hdangling⟩
    · exact absurd h (fails_failAt _ _ _ _ _)
    rw [hr, List.length_cons] at hn
    dsimp only at h
    by_cases hclose : t = .plain ']' ∧ read ≠ []
    · rw [if_pos hclose] at h
      cases h
      obtain ⟨rfl, hread⟩ := hclose
      exact closes_last hr fun start n => if_pos ⟨rfl, hread⟩
    · rw [if_neg hclose] at h
      obtain ⟨first, r₂, hmember, h⟩ := bind_ok h
      obtain ⟨dash, r₃, haccept, h⟩ := bind_ok h
      have hlen : r₃.rest.length ≤ r₁.rest.length := by
        obtain ⟨_, hr₁, -⟩ := steady_member t r₁ first r₂ hmember
        obtain ⟨_, hr₂, -⟩ := steady_accept _ r₂ dash r₃ haccept
        rw [hr₁, hr₂, List.length_append, List.length_append]
        omega
      refine .next hr hdangling ?_
      simp only [if_neg hclose]
      refine .step (steady_member t) hmember (.step (steady_accept _) haccept ?_)
      exact setTail_closes asciiOnly ih (by omega) h

/-- A set that ends with the pattern is read in the same way within a longer pattern. -/
theorem bracketSet_takes {flags : Flags} {body : List Token} {pos : Nat} {item : Item} {r : Reader}
    (h : bracketSet flags { rest := body, pos } = .ok (item, r)) (hend : r.rest = []) :
    body.getLast? = some (.plain ']') ∧ (∃ t, item = .char t) ∧
      ∀ more, more ≠ [.dangling] → Takes (bracketSet flags) body item more := by
  obtain ⟨_, _, hget, h⟩ := bind_ok h
  cases hget
  obtain ⟨negated, r₁, hnegated, h⟩ := bind_ok h
  obtain ⟨_, _, hget, h⟩ := bind_ok h
  cases hget
  obtain ⟨items, r₂, hitems, h⟩ := bind_ok h
  cases h
  obtain ⟨used, hr₁, hlast, htakes⟩ := setItems_closes flags.asciiOnly (Nat.lt_succ_self _) hitems
  obtain ⟨used', hbody, htakes'⟩ := steady_accept _ _ negated r₁ hnegated
  rw [hend, List.append_nil] at hr₁
  dsimp only at hbody
  refine ⟨by rw [hbody, hr₁, List.getLast?_append, hlast, Option.some_or], ⟨_, rfl⟩,
    fun more hmore => ?_⟩
  have hneg := htakes' (hr₁ ▸ ne_nil_of_getLast? hlast) more
  rw [hbody]
  refine Takes.get_bind fun r₀ _ => ?_
  rw [hr₁] at hneg ⊢
  refine hneg.bind (Takes.get_bind fun r₀' hr₀' => ?_)
  rw [hend] at htakes
  have hset := htakes more (r₀.pos - 1) (r₀'.rest.length + 1) hmore (by
    rw [hr₀', List.length_append]
    omega)
  exact hset.bind_left (takes_pure _ _)

end LineSift.Regex.Parse
