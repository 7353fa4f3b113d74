import LineSift.Proofs.Regex.Agreement

/-!
# The parts of a pattern within a longer pattern

Escapes, sets and the bounds of repetitions are read in the same way in front of more tokens as at
the end of a pattern.  A set is closed or wrong (`agrees_bracketSet`).  What the tokens behind can
add to are the digits of an escape (`takesDigit`, `escape_number_same`), and the numbers behind a
brace, which are bounds if the brace that closes them is found (`IsBounds`, `bounds_same`).
-/

namespace LineSift.Regex.Parse

variable {α β : Type} {more : List Token} {toEnd : Bool} {n : Nat}

/-! ## Digits -/

/-- Code points are those in front of some tokens that satisfy a test, as many as there are, but at
most `k`. -/
structure Run (p : CodePoint → Bool) (k : Nat) (ds : Text) (ts : List Token) : Prop where
  all : ∀ d ∈ ds, p d = true
  length : ds.length ≤ k
  stop : ds.length < k → ∀ c, ts.head? = some (.plain c) → ¬ p c = true

theorem Run.tail {p : CodePoint → Bool} {k : Nat} {d : CodePoint} {ds : Text} {ts : List Token}
    (h : Run p (k + 1) (d :: ds) ts) : Run p k ds ts :=
  ⟨fun e he => h.all e (List.mem_cons_of_mem _ he), Nat.le_of_succ_le_succ h.length,
    fun hlt => h.stop (Nat.succ_lt_succ hlt)⟩

/-- No two runs begin at the same place. -/
theorem Run.unique {p : CodePoint → Bool} {k : Nat} {ds ds' : Text} {ts ts' : List Token}
    (h : Run p k ds ts) (h' : Run p k ds' ts')
    (he : ds'.map Token.plain ++ ts' = ds.map Token.plain ++ ts) : ds' = ds ∧ ts' = ts := by
  induction ds generalizing ds' k with
  | nil =>
    cases ds' with
    | nil => exact ⟨rfl, he⟩
    | cons d' ds' =>
      have hhead : ts.head? = some (.plain d') := by
        rw [← show _ = ts from he]
        rfl
      exact absurd (h'.all d' List.mem_cons_self)
        (h.stop (Nat.lt_of_lt_of_le (Nat.zero_lt_succ _) h'.length) d' hhead)
  | cons d ds ih =>
    obtain ⟨k, rfl⟩ := Nat.exists_eq_add_of_lt (Nat.lt_of_lt_of_le (Nat.zero_lt_succ _) h.length)
    rw [Nat.zero_add] at h h'
    cases ds' with
    | nil =>
      have hhead : ts'.head? = some (.plain d) := by
        rw [show ts' = _ from he]
        rfl
      exact absurd (h.all d List.mem_cons_self) (h'.stop (Nat.zero_lt_succ _) d hhead)
    | cons d' ds' =>
      obtain ⟨hd, he⟩ := List.cons.inj he
      obtain ⟨rfl, rfl⟩ := ih h.tail h'.tail he
      rw [Token.plain.inj hd]
      exact ⟨rfl, rfl⟩

theorem takeWhile_ok {p : CodePoint → Bool} {k : Nat} {ds : Text} {r s : Reader}
    (h : takeWhile p k r = .ok (ds, s)) :
    ∃ pos, r.rest = ds.map .plain ++ s.rest ∧ Onward r.rest s.rest ∧
      s = { r with rest := s.rest, pos } ∧ Run p k ds s.rest := by
  induction k generalizing ds r with
  | zero =>
    cases h
    exact ⟨_, rfl, .here _, rfl, by simp, Nat.le_refl _, by simp⟩
  | succ k ih =>
    rw [takeWhile] at h
    obtain ⟨o, r₁, hpeek, h⟩ := bind_ok h
    cases hpeek
    cases hc : r.rest.head?.bind Token.plain? with
    | none =>
      rw [hc] at h
      cases h
      refine ⟨_, rfl, .here _, rfl, by simp, Nat.zero_le _, fun _ d hd => ?_⟩
      rw [hd] at hc
      cases hc
    | some c =>
      obtain ⟨t, hhead, ht⟩ := Option.bind_eq_some_iff.mp hc
      obtain rfl : t = .plain c := by
        cases t <;> cases ht
        rfl
      rw [hc] at h
      dsimp only at h
      split at h
      · next hp =>
        obtain ⟨o, r₂, hnext, h⟩ := bind_ok h
        obtain ⟨ds', r₃, htake, h⟩ := bind_ok h
        cases h
        obtain ⟨pos, hrest, honward, hs, hrun⟩ := ih htake
        rcases next_ok hnext with ⟨-, hnil, -⟩ | ⟨t, ts, pos', -, hcons, hne, rfl⟩
        · rw [hnil] at hhead
          cases hhead
        · rw [hcons] at hhead
          obtain rfl := Option.some.inj hhead
          refine ⟨pos, by rw [hcons, show ts = _ from hrest]; rfl, ?_, hs,
            by simpa [hp] using hrun.all, Nat.succ_le_succ hrun.length,
            fun hlt => hrun.stop (Nat.lt_of_succ_lt_succ hlt)⟩
          rw [hcons]
          exact .take hne honward
      · next hp =>
        cases h
        refine ⟨_, rfl, .here _, rfl, by simp, Nat.zero_le _, fun _ d hd => ?_⟩
        rw [hhead] at hd
        cases hd
        exact hp

/-- All code points that satisfy a test are a run, however many can be taken. -/
theorem takeAll_ok {p : CodePoint → Bool} {ds : Text} {r s : Reader}
    (h : takeAll p r = .ok (ds, s)) :
    ∃ pos, r.rest = ds.map .plain ++ s.rest ∧ Onward r.rest s.rest ∧
      s = { r with rest := s.rest, pos } ∧ ∀ k, ds.length ≤ k → Run p k ds s.rest := by
  obtain ⟨_, _, hget, h⟩ := bind_ok h
  cases hget
  obtain ⟨pos, hrest, honward, hs, hrun⟩ := takeWhile_ok h
  refine ⟨pos, hrest, honward, hs, fun k hk => ⟨hrun.all, hk, fun _ c hc => ?_⟩⟩
  refine hrun.stop ?_ c hc
  have hlen := congrArg List.length hrest
  rw [List.length_append, List.length_map] at hlen
  have hpos : 0 < s.rest.length := by
    cases hnil : s.rest with
    | nil =>
      rw [hnil] at hc
      cases hc
    | cons t ts => exact Nat.zero_lt_succ _
  omega

/-- A run before the end is one in front of more tokens. -/
theorem Run.append {p : CodePoint → Bool} {k : Nat} {ds : Text} {ts : List Token}
    (h : Run p k ds ts)
    (hend : ts = [] → ds.length < k → ∀ c, more.head? = some (.plain c) → ¬ p c = true) :
    Run p k ds (ts ++ more) := by
  refine ⟨h.all, h.length, fun hlt c hc => ?_⟩
  cases ts with
  | nil => exact hend rfl hlt c hc
  | cons t ts => exact h.stop hlt c hc

/-- Readers that stand alike take the same code points, if no more of them can be taken from the
tokens behind. -/
theorem takeWhile_same {p : CodePoint → Bool} {k : Nat} {ds ds' : Text} {r r' s s' : Reader}
    (h : takeWhile p k r = .ok (ds, s)) (h' : takeWhile p k r' = .ok (ds', s'))
    (halike : Alike more r r')
    (hend : s.rest = [] → ds.length < k → ∀ c, more.head? = some (.plain c) → ¬ p c = true) :
    ds' = ds ∧ Alike more s s' := by
  obtain ⟨pos, hrest, -, hs, hrun⟩ := takeWhile_ok h
  obtain ⟨pos', hrest', -, hs', hrun'⟩ := takeWhile_ok h'
  obtain ⟨hds, hts⟩ := (hrun.append hend).unique hrun'
    (by rw [← hrest', halike.rest, hrest, List.append_assoc])
  rw [hs, hs', hts]
  exact ⟨hds, halike.move _ _ _⟩

theorem agrees_takeWhile (p : CodePoint → Bool) (k : Nat) :
    Agrees false more n (takeWhile p k) (takeWhile p k) where
  onward := by
    intro r s ds _ h
    obtain ⟨-, -, honward, -⟩ := takeWhile_ok h
    exact honward
  same := fun _ halike h h' hend =>
    takeWhile_same h h' halike fun hnil => absurd hnil (hend.resolve_left (by simp))

theorem agrees_takeAll (p : CodePoint → Bool) : Agrees false more n (takeAll p) (takeAll p) where
  onward := by
    intro r s ds _ h
    obtain ⟨-, -, honward, -⟩ := takeAll_ok h
    exact honward
  same := by
    intro r r' s s' ds ds' _ halike h h' hend
    have hne : s.rest ≠ [] := hend.resolve_left (by simp)
    obtain ⟨pos, hrest, -, hs, hrun⟩ := takeAll_ok h
    obtain ⟨pos', hrest', -, hs', hrun'⟩ := takeAll_ok h'
    have hmore : Run p (max ds.length ds'.length) ds (s.rest ++ more) :=
      (hrun _ (Nat.le_max_left _ _)).append fun hnil => absurd hnil hne
    obtain ⟨hds, hts⟩ := hmore.unique (hrun' _ (Nat.le_max_right _ _))
      (by rw [← hrest', halike.rest, hrest, List.append_assoc])
    rw [hs, hs', hts]
    exact ⟨hds, halike.move _ _ _⟩

/-! ## Escapes -/

/-- A step that only looks at the reader and may fail. -/
theorem agrees_check {f f' : Parse Unit} (h : ∀ r u s, f r = .ok (u, s) → s = r)
    (h' : ∀ r u s, f' r = .ok (u, s) → s = r) : Agrees toEnd more n f f' where
  onward := by
    intro r s u _ hf
    rw [h _ _ _ hf]
    exact .here _
  same := by
    intro r r' s s' u u' _ halike hf hf' _
    rw [h _ _ _ hf, h' _ _ _ hf']
    exact ⟨rfl, halike⟩

theorem checkBehind_ok {group : Nat} {r s : Reader} {u : Unit}
    (h : checkBehind group r = .ok (u, s)) : s = r := by
  unfold checkBehind at h
  obtain ⟨_, _, hget, h⟩ := bind_ok h
  cases hget
  cases hbehind : r.behindFrom with
  | none =>
    rw [hbehind] at h
    cases h
    rfl
  | some bound =>
    rw [hbehind] at h
    dsimp only at h
    split at h
    · exact absurd h ((fails_fail _ _).bind _ _ _ _)
    · split at h
      · exact absurd h (fails_fail _ _ _ _ _)
      · cases h
        rfl

theorem agrees_checkBehind (group : Nat) :
    Agrees toEnd more n (checkBehind group) (checkBehind group) :=
  agrees_check (fun _ _ _ => checkBehind_ok) (fun _ _ _ => checkBehind_ok)

theorem agrees_backref (flags : Flags) (group : Nat) :
    Agrees toEnd more n (backref flags group) (backref flags group) := by
  refine (agrees_checkBehind group).bind fun _ => .get_bind fun r r' _ halike => ?_
  rw [halike.closed]
  exact agrees_pure _

theorem agrees_octal (digits : Text) : Agrees toEnd more n (octal digits) (octal digits) := by
  unfold octal
  dsimp only
  split
  · exact agrees_pure _
  · exact (fails_fail _ _).agrees _

theorem agrees_numbered (written : Text) (k : Nat) :
    Agrees toEnd more n (numbered written k) (numbered written k) := by
  unfold numbered
  split
  · exact agrees_pure _
  · split
    · exact (fails_fail _ _).agrees _
    · exact (fails_throw _).agrees _

theorem agrees_itself (c : CodePoint) : Agrees toEnd more n (itself c) (itself c) := by
  unfold itself
  split
  · exact (fails_fail _ _).agrees _
  · exact agrees_pure _

/-- A fixed number of digits is the same if both readers find so many. -/
theorem agrees_hexEscape (letter : CodePoint) (count : Nat) :
    Agrees toEnd more n (hexEscape letter count) (hexEscape letter count) where
  onward := by
    intro r s c _ h
    obtain ⟨ds, r₁, hds, h⟩ := bind_ok h
    obtain ⟨-, -, honward, -⟩ := takeWhile_ok hds
    refine honward.trans ?_
    dsimp only at h
    split at h
    · exact (agrees_numbered _ _ : Agrees true [] _ _ _).onward (Nat.le_refl _) h
    · exact absurd h (fails_fail _ _ _ _ _)
  same := by
    intro r r' s s' c c' hn halike h h' hend
    obtain ⟨ds, r₁, hds, h⟩ := bind_ok h
    obtain ⟨ds', r₁', hds', h'⟩ := bind_ok h'
    dsimp only at h h'
    split at h
    · next hlen =>
      split at h'
      · next hlen' =>
        obtain ⟨rfl, halike₁⟩ := takeWhile_same hds hds' halike
          fun _ hlt => absurd hlen (Nat.ne_of_lt hlt)
        exact (agrees_numbered _ _).same (Nat.le_refl _) halike₁ h h' hend
      · exact absurd h' (fails_fail _ _ _ _ _)
    · exact absurd h (fails_fail _ _ _ _ _)

theorem agrees_namedEscape : Agrees toEnd more n namedEscape namedEscape := by
  refine .accept (Or.inl (fails_fail _ _).needs) (fun m _ => ?_) ((fails_fail _ _).agrees _)
  refine (agrees_nameTo _ _).bind fun name => ?_
  split
  · exact agrees_pure _
  · exact (fails_fail _ _).agrees _

theorem agrees_codeEscape {c : CodePoint} {step : Parse CodePoint}
    (h : codeEscape? c = some step) : Agrees toEnd more n step step := by
  unfold codeEscape? at h
  split at h
  · cases h
    exact agrees_hexEscape _ _
  · split at h
    · cases h
      exact agrees_hexEscape _ _
    · split at h
      · cases h
        exact agrees_hexEscape _ _
      · split at h
        · cases h
          exact agrees_namedEscape
        · cases h

/-- The third digit of an octal escape that does not begin with zero. -/
def thirdDigit (c : CodePoint) (second : Text) : Parse Text :=
  if c.isOctDigit && !second.isEmpty && second.all CodePoint.isOctDigit then
    takeWhile CodePoint.isOctDigit 1
  else pure []

/-- What the digits of an escape stand for: a code point if there are three, else a group. -/
def digitItem (flags : Flags) (c : CodePoint) (second third : Text) : Parse Item := do
  if !third.isEmpty then
    return .char (.literal flags.caseMode (← octal (c :: second ++ third)))
  let group := Text.digitsValue 10 (c :: second)
  let r ← get
  if group ≤ r.groupCount then
    if (r.closed.lookup group).isNone then fail .openGroup (second.length + 2)
    backref flags group
  else fail (.noSuchGroup group) (second.length + 1)

theorem digitEscape_eq (flags : Flags) (c : CodePoint) : digitEscape flags c = (do
    let second ← takeWhile CodePoint.isAsciiDigit 1
    let third ← thirdDigit c second
    digitItem flags c second third) := by
  unfold digitEscape thirdDigit digitItem
  refine bind_congr fun second => ?_
  dsimp only
  split
  · rfl
  · rfl

theorem agrees_digitItem (flags : Flags) (c : CodePoint) (second third : Text) :
    Agrees toEnd more n (digitItem flags c second third) (digitItem flags c second third) := by
  unfold digitItem
  split
  · exact (agrees_octal _).bind fun _ => agrees_pure _
  · refine .get_bind fun r r' _ halike => ?_
    rw [halike.groupCount, halike.closed]
    split
    · split
      · exact ((fails_fail _ _).bind _).agrees _
      · exact agrees_backref _ _
    · exact (fails_fail _ _).agrees _

/-- Whether an escape by the number `c :: ds` takes one more code point as a digit. -/
def takesDigit (c : CodePoint) (ds : Text) (d : CodePoint) : Bool :=
  if c = .char '0' then ds.length < 2 && ds.all CodePoint.isOctDigit && d.isOctDigit
  else c.isAsciiDigit && match ds with
    | [] => d.isAsciiDigit
    | [e] => c.isOctDigit && e.isOctDigit && d.isOctDigit
    | _ => false

/-- Escapes that are no numbers. -/
theorem agrees_escape_of_not_digit (flags : Flags) {c : CodePoint}
    (hc : ¬ c.isAsciiDigit = true) : Agrees toEnd more n (escape flags c) (escape flags c) := by
  have hzero : c ≠ .char '0' := by
    rintro rfl
    exact hc (by decide)
  unfold escape
  dsimp only
  split
  · exact agrees_pure _
  split
  · exact agrees_pure _
  split
  · exact agrees_pure _
  split
  · next step hstep => exact (agrees_codeEscape hstep).bind fun _ => agrees_pure _
  rw [if_neg hzero, if_neg hc]
  exact (agrees_itself _).bind fun _ => agrees_pure _

/-- An escape by a number that begins with zero. -/
theorem escape_zero (flags : Flags) : escape flags '0' = (do
    let digits ← takeWhile CodePoint.isOctDigit 2
    return .char (.literal flags.caseMode (CodePoint.ofNat (Text.digitsValue 8 digits)))) := rfl

/-- An escape by a number that does not begin with zero. -/
theorem escape_digit (flags : Flags) {c : CodePoint} (hc : c.isAsciiDigit = true)
    (hzero : c ≠ .char '0') : escape flags c = digitEscape flags c := by
  have hanchor : anchor? flags.asciiOnly c = none := by
    unfold anchor?
    split
    case h_5 => rfl
    all_goals exact absurd hc (by decide)
  have hcategory : category? c = none := by
    unfold category?
    split
    case h_7 => rfl
    all_goals exact absurd hc (by decide)
  have hletter : letterEscape? c = none := by
    unfold letterEscape?
    split
    case h_9 => rfl
    all_goals exact absurd hc (by decide)
  have hcode : codeEscape? c = none := by
    have hne {d : Char} (hd : ¬ (CodePoint.char d).isAsciiDigit = true) : c ≠ .char d := by
      rintro rfl
      exact hd hc
    unfold codeEscape?
    rw [if_neg (hne (by decide)), if_neg (hne (by decide)), if_neg (hne (by decide)),
      if_neg (hne (by decide))]
  unfold escape
  simp only [hanchor, hcategory, hletter, hcode, if_neg hzero, if_pos hc]

theorem thirdDigit_ok {c : CodePoint} {second third : Text} {r s : Reader}
    (h : thirdDigit c second r = .ok (third, s)) :
    r.rest = third.map .plain ++ s.rest ∧ Onward r.rest s.rest := by
  unfold thirdDigit at h
  split at h
  · obtain ⟨pos, hrest, honward, -⟩ := takeWhile_ok h
    exact ⟨hrest, honward⟩
  · cases h
    exact ⟨rfl, .here _⟩

theorem escape_number_onward {flags : Flags} {c : CodePoint} {r s : Reader} {item : Item}
    (hc : c.isAsciiDigit = true) (h : escape flags c r = .ok (item, s)) :
    Onward r.rest s.rest := by
  by_cases hzero : c = .char '0'
  · subst hzero
    obtain ⟨ds, r₁, hds, h⟩ := bind_ok h
    cases h
    obtain ⟨-, -, honward, -⟩ := takeWhile_ok hds
    exact honward
  · rw [escape_digit flags hc hzero, digitEscape_eq] at h
    obtain ⟨second, r₁, hsecond, h⟩ := bind_ok h
    obtain ⟨third, r₂, hthird, h⟩ := bind_ok h
    obtain ⟨-, -, honward, -⟩ := takeWhile_ok hsecond
    exact (honward.trans (thirdDigit_ok hthird).2).trans
      ((agrees_digitItem _ _ _ _ : Agrees true [] _ _ _).onward (Nat.le_refl _) h)

/-- The third digit is the same, unless it would be the first one behind the pattern. -/
theorem thirdDigit_same {c : CodePoint} {second third third' : Text} {r r' s s' : Reader}
    (hc : c.isAsciiDigit = true) (hzero : c ≠ .char '0') (hsecond : second.length ≤ 1)
    (halike : Alike more r r') (h : thirdDigit c second r = .ok (third, s))
    (h' : thirdDigit c second r' = .ok (third', s'))
    (hend : s.rest = [] → r.rest = [] → ∀ d, more.head? = some (.plain d) →
      ¬ takesDigit c second d = true) :
    third' = third ∧ Alike more s s' := by
  have hread := (thirdDigit_ok h).1
  unfold thirdDigit at h h'
  split at h
  · next hoct =>
    rw [if_pos hoct] at h'
    refine takeWhile_same h h' halike fun hnil hlt d hd hdigit => ?_
    obtain rfl := List.length_eq_zero_iff.mp (Nat.lt_one_iff.mp hlt)
    refine hend hnil (by rw [hread, hnil]; rfl) d hd ?_
    match second, hsecond with
    | [], _ => simp at hoct
    | [e], _ =>
      simp only [List.isEmpty_cons, Bool.not_false, Bool.and_true, List.all_cons, List.all_nil,
        Bool.and_eq_true] at hoct
      simp [takesDigit, hzero, hc, hoct.1, hoct.2, hdigit]
  · next hoct =>
    rw [if_neg hoct] at h'
    cases h
    cases h'
    exact ⟨rfl, halike⟩

/-- Numbers stand for the same if the number in the first reader does not end with the pattern in
front of one more digit. -/
theorem escape_number_same {flags : Flags} {c : CodePoint} {r r' s s' : Reader} {item item' : Item}
    (hc : c.isAsciiDigit = true) (halike : Alike more r r') (h : escape flags c r = .ok (item, s))
    (h' : escape flags c r' = .ok (item', s'))
    (hend : s.rest = [] → ∀ ds d, r.rest = ds.map .plain → more.head? = some (.plain d) →
      ¬ takesDigit c ds d = true) :
    item' = item ∧ Alike more s s' := by
  by_cases hzero : c = .char '0'
  · subst hzero
    rw [escape_zero] at h h'
    obtain ⟨ds, r₁, hds, h⟩ := bind_ok h
    obtain ⟨ds', r₁', hds', h'⟩ := bind_ok h'
    cases h
    cases h'
    obtain ⟨pos, hrest, -, -, hrun⟩ := takeWhile_ok hds
    obtain ⟨rfl, halike₁⟩ := takeWhile_same hds hds' halike fun hnil hlt d hd hoct => by
      refine hend hnil ds d (by rw [hrest, hnil, List.append_nil]) hd ?_
      simp [takesDigit, hlt, hoct, List.all_eq_true.mpr hrun.all]
    exact ⟨rfl, halike₁⟩
  · rw [escape_digit flags hc hzero, digitEscape_eq] at h h'
    obtain ⟨second, r₁, hsecond, h⟩ := bind_ok h
    obtain ⟨second', r₁', hsecond', h'⟩ := bind_ok h'
    obtain ⟨third, r₂, hthird, h⟩ := bind_ok h
    obtain ⟨third', r₂', hthird', h'⟩ := bind_ok h'
    obtain ⟨pos, hrest, -, -, hrun⟩ := takeWhile_ok hsecond
    have hr₁ := (thirdDigit_ok hthird).1
    have honward : Onward r₂.rest s.rest :=
      (agrees_digitItem _ _ _ _ : Agrees true [] _ _ _).onward (Nat.le_refl _) h
    have htoEnd : r₂.rest = [] → s.rest = [] := fun hnil =>
      List.suffix_nil.mp (hnil ▸ honward.suffix)
    obtain ⟨rfl, halike₁⟩ := takeWhile_same hsecond hsecond' halike fun hnil hlt d hd hdigit => by
      obtain rfl := List.length_eq_zero_iff.mp (Nat.lt_one_iff.mp hlt)
      rw [hnil] at hr₁
      obtain ⟨-, hr₂⟩ := List.append_eq_nil_iff.mp hr₁.symm
      refine hend (htoEnd hr₂) [] d (by rw [hrest, hnil]; rfl) hd ?_
      simp [takesDigit, hzero, hc, hdigit]
    obtain ⟨rfl, halike₂⟩ := thirdDigit_same hc hzero hrun.length halike₁ hthird hthird'
      fun hnil hnil₁ d hd =>
        hend (htoEnd hnil) second' d (by rw [hrest, hnil₁, List.append_nil]) hd
    exact (agrees_digitItem _ _ _ _ : Agrees true more _ _ _).same (Nat.le_refl _) halike₂ h h'
      (Or.inl rfl)

/-- Escapes are the same before the end of the pattern. -/
theorem agrees_escape (flags : Flags) (c : CodePoint) :
    Agrees false more n (escape flags c) (escape flags c) := by
  by_cases hc : c.isAsciiDigit = true
  · refine ⟨fun _ => escape_number_onward hc, fun _ halike h h' hend => ?_⟩
    exact escape_number_same hc halike h h'
      fun hnil => absurd hnil (hend.resolve_left (by simp))
  · exact agrees_escape_of_not_digit flags hc

/-! ## Sets -/

theorem agrees_memberEscape (c : CodePoint) :
    Agrees false more n (memberEscape c) (memberEscape c) := by
  unfold memberEscape
  split
  · exact agrees_pure _
  split
  · exact agrees_pure _
  split
  · next step hstep => exact (agrees_codeEscape hstep).bind fun _ => agrees_pure _
  split
  · exact (agrees_takeWhile _ _).bind fun _ => (agrees_octal _).bind fun _ => agrees_pure _
  · exact (agrees_itself _).bind fun _ => agrees_pure _

theorem agrees_member (t : Token) :
    Agrees false more n (member t) (member t) := by
  cases t with
  | plain c => exact agrees_pure _
  | escaped c => exact agrees_memberEscape c
  | dangling => exact agrees_pure _

theorem needs_setItems (asciiOnly : Bool) (start : Nat) (read : List SetItem) (fuel : Nat) :
    Needs (setItems asciiOnly start read (fuel + 1)) := by
  rw [setItems_succ]
  exact needs_next (fails_failAt _ _)

theorem agrees_setItems (asciiOnly : Bool) (start start' : Nat) {read : List SetItem}
    {fuel fuel' : Nat} (hfuel : n < fuel) (hfuel' : n < fuel') :
    Agrees toEnd more n (setItems asciiOnly start read fuel)
      (setItems asciiOnly start' read fuel') := by
  induction fuel generalizing fuel' n read toEnd with
  | zero => exact absurd hfuel (Nat.not_lt_zero _)
  | succ fuel ih =>
    obtain ⟨fuel', rfl⟩ := Nat.exists_eq_add_of_lt (Nat.zero_lt_of_lt hfuel')
    rw [Nat.zero_add] at hfuel' ⊢
    rw [setItems_succ, setItems_succ]
    refine .next (fun m hm t => ?_) (fails_failAt _ _)
    dsimp only
    split
    · exact agrees_pure _
    obtain ⟨fuel, rfl⟩ := Nat.exists_eq_add_of_lt (Nat.zero_lt_of_lt (show m < fuel by omega))
    refine (agrees_member t).bind_needs (fun first => ?_) (fun first => ?_)
    · refine .accept (Or.inl (needs_setItems _ _ _ _)) (fun m' hm' => ?_) (ih (by omega) (by omega))
      refine .next (fun k hk u => ?_) (fails_failAt _ _)
      dsimp only
      split
      · exact agrees_pure _
      obtain ⟨fuel, rfl⟩ := Nat.exists_eq_add_of_lt (Nat.zero_lt_of_lt (show k < fuel by omega))
      refine (agrees_member u).bind_needs (fun second => ?_) (fun second => ?_)
      · split
        · split
          · exact (fails_fail _ _).agrees _
          · exact ih (by omega) (by omega)
        · exact (fails_fail _ _).agrees _
      · split
        · split
          · exact (fails_fail _ _).needs
          · exact needs_setItems _ _ _ _
        · exact (fails_fail _ _).needs
    · exact needs_accept (needs_setItems _ _ _ _)

theorem agrees_bracketSet (flags : Flags) :
    Agrees toEnd more n (bracketSet flags) (bracketSet flags) := by
  refine .get_bind fun r r' hr halike => ?_
  refine (agrees_accept (by simp)).bind_needs (fun negated => ?_) (fun negated => ?_)
  · refine .get_bind fun r₁ r₁' hr₁ halike₁ => ?_
    refine (agrees_setItems _ _ _ (Nat.lt_succ_self _) ?_).bind fun items => agrees_pure _
    rw [halike₁.length]
    omega
  · exact needs_get_bind fun r₁ => (needs_setItems _ _ _ _).bind _

/-! ## Repetitions -/

/-- A repetition takes the last part, whatever parts are below. -/
theorem agrees_quantify (start start' lo : Nat) (hi : Option Nat) (read below : List Item)
    (hmore : toEnd = true → more.head? ≠ some (.plain '?') ∧ more.head? ≠ some (.plain '+'))
    {g g' : List Item → Parse β}
    (hg : ∀ items, Agrees toEnd more n (g items) (g' (items ++ below))) :
    Agrees toEnd more n (quantify start lo hi read >>= g)
      (quantify start' lo hi (read ++ below) >>= g') := by
  cases read with
  | nil => exact ((fails_failAt _ _).bind _).agrees _
  | cons item others =>
    unfold quantify
    rw [List.cons_append]
    dsimp only
    split
    · exact (((fails_failAt _ _).bind _).bind _).agrees _
    split
    · exact (((fails_failAt _ _).bind _).bind _).agrees _
    simp only [bind_assoc]
    refine (agrees_accept fun htoEnd => (hmore htoEnd).1).bind fun lazy => ?_
    split
    · exact hg _
    simp only [bind_assoc]
    refine (agrees_accept fun htoEnd => (hmore htoEnd).2).bind fun possessive => ?_
    split
    · exact hg _
    · exact hg _

/-- The digits of the greatest number of a repetition: those behind the comma, if there is one. -/
def upperDigits (lo : Text) (comma : Bool) : Parse Text :=
  if comma then takeAll CodePoint.isAsciiDigit else pure lo

/-- The digits of the bounds of a repetition. -/
def boundDigits : Parse (Text × Text) := do
  let lo ← takeAll CodePoint.isAsciiDigit
  let comma ← accept ','
  let hi ← upperDigits lo comma
  return (lo, hi)

/-- The least number of a repetition from its digits. -/
def leastOf (lo : Text) : Parse Nat := if lo = [] then pure 0 else bound lo

/-- The bounds of a repetition from the least number and the digits of the greatest. -/
def boundsOf (start : Nat) (hi : Text) (least : Nat) : Parse Bounds := do
  if hi = [] then return .between least none
  let most ← bound hi
  if most < least then failAt start .boundsReversed
  return .between least (some most)

theorem bounds_eq : bounds = (do
    let here ← get
    if here.rest.head? = some (.plain '}') then return .literal
    let (lo, hi) ← boundDigits
    if ← accept '}' then leastOf lo >>= boundsOf here.pos hi
    else
      set here
      return .literal) := by
  have hleast {lo : Text} {f : Nat → Parse Bounds} :
      (leastOf lo >>= f) = if lo = [] then pure 0 >>= f else bound lo >>= f := by
    unfold leastOf
    split <;> rfl
  unfold bounds boundDigits boundsOf
  refine bind_congr fun here => ?_
  split
  · rfl
  simp only [bind_assoc, pure_bind, hleast]
  refine bind_congr fun lo => bind_congr fun comma => ?_
  cases comma with
  | false => simp only [upperDigits, Bool.false_eq_true, if_false, pure_bind]
  | true => simp only [upperDigits, if_true]

theorem agrees_bound (digits : Text) : Agrees toEnd more n (bound digits) (bound digits) := by
  unfold bound
  split
  · exact ((fails_throw _).bind _).agrees _
  · dsimp only
    split
    · exact ((fails_throw _).bind _).agrees _
    · exact agrees_pure _

theorem agrees_leastOf (lo : Text) : Agrees toEnd more n (leastOf lo) (leastOf lo) := by
  unfold leastOf
  split
  · exact agrees_pure _
  · exact agrees_bound _

theorem agrees_boundsOf (start start' : Nat) (hi : Text) (least : Nat) :
    Agrees toEnd more n (boundsOf start hi least) (boundsOf start' hi least) := by
  unfold boundsOf
  split
  · exact agrees_pure _
  refine (agrees_bound _).bind fun most => ?_
  dsimp only
  split
  · exact ((fails_failAt _ _).bind _).agrees _
  · exact agrees_pure _

theorem agrees_boundDigits : Agrees false more n boundDigits boundDigits := by
  refine (agrees_takeAll _).bind fun lo => ?_
  refine (agrees_accept (by simp)).bind fun comma => ?_
  cases comma with
  | false => exact agrees_pure _
  | true => exact (agrees_takeAll _).bind fun hi => agrees_pure _

/-- The numbers of the bounds of a repetition: one, or two with a comma between them.  Each of them
can be missing. -/
def Numbers (us : List Token) : Prop :=
  ∃ lo hi : Text, (∀ d ∈ lo ++ hi, d.isAsciiDigit = true) ∧
    (us = lo.map .plain ∨ us = lo.map .plain ++ Token.plain ',' :: hi.map .plain)

/-- The bounds of a repetition, as they stand between the braces. -/
def IsBounds (us : List Token) : Prop := us ≠ [] ∧ Numbers us

/-- Among the numbers of bounds there are only digits and a comma. -/
theorem Numbers.not_special {us : List Token} (h : Numbers us) :
    ∀ t ∈ us, ∃ c, t = .plain c ∧ ¬ isSpecial c = true := by
  obtain ⟨lo, hi, hall, hus⟩ := h
  have hdigit {d : CodePoint} (hd : d.isAsciiDigit = true) : ¬ isSpecial d = true := by
    intro hspecial
    obtain ⟨e, he, heq⟩ := List.any_eq_true.mp hspecial
    have hno := List.all_eq_true (p := fun e => !(CodePoint.char e).isAsciiDigit).mp
      (by decide) e he
    rw [← beq_iff_eq.mp heq, hd] at hno
    cases hno
  intro t ht
  have hcases : t = .plain ',' ∨ ∃ d ∈ lo ++ hi, t = .plain d := by
    rcases hus with rfl | rfl
    · obtain ⟨d, hd, rfl⟩ := List.mem_map.mp ht
      exact Or.inr ⟨d, List.mem_append_left _ hd, rfl⟩
    · rcases List.mem_append.mp ht with ht | ht
      · obtain ⟨d, hd, rfl⟩ := List.mem_map.mp ht
        exact Or.inr ⟨d, List.mem_append_left _ hd, rfl⟩
      · rcases List.mem_cons.mp ht with rfl | ht
        · exact Or.inl rfl
        · obtain ⟨d, hd, rfl⟩ := List.mem_map.mp ht
          exact Or.inr ⟨d, List.mem_append_right _ hd, rfl⟩
  rcases hcases with rfl | ⟨d, hd, rfl⟩
  · exact ⟨_, rfl, by decide⟩
  · exact ⟨d, rfl, hdigit (hall d hd)⟩

theorem Numbers.brace_not_mem {us : List Token} (h : Numbers us) : .plain '}' ∉ us := by
  intro hmem
  obtain ⟨c, hc, hspecial⟩ := h.not_special _ hmem
  obtain rfl := Token.plain.inj hc
  exact hspecial (by decide)

/-- Numbers end before a closing brace, so it stands in what is put behind them. -/
theorem Numbers.cut {us us' ts : List Token} (h : Numbers us)
    (heq : us ++ more = us' ++ .plain '}' :: ts) :
    ∃ vs, us' = us ++ vs ∧ more = vs ++ .plain '}' :: ts := by
  rcases List.append_eq_append_iff.mp heq with ⟨vs, rfl, hmore⟩ | ⟨vs, rfl, hmore⟩
  · exact ⟨vs, rfl, hmore⟩
  · cases vs with
    | nil => exact ⟨[], by simp, hmore.symm⟩
    | cons v vs =>
      obtain ⟨rfl, -⟩ := List.cons.inj hmore
      exact absurd (List.mem_append_right _ List.mem_cons_self) h.brace_not_mem

/-- What is taken as the digits of bounds. -/
theorem boundDigits_ok {r s : Reader} {x : Text × Text} (h : boundDigits r = .ok (x, s)) :
    ∃ used, r.rest = used ++ s.rest ∧ Numbers used := by
  obtain ⟨lo, r₁, hlo, h⟩ := bind_ok h
  obtain ⟨comma, r₂, hcomma, h⟩ := bind_ok h
  obtain ⟨hi, r₃, hhi, h⟩ := bind_ok h
  cases h
  obtain ⟨-, hr, -, -, hrun⟩ := takeAll_ok hlo
  have hall := (hrun _ (Nat.le_refl _)).all
  rcases accept_ok hcomma with ⟨rfl, -, rfl⟩ | ⟨ts, pos, rfl, hr₁, -, rfl⟩
  · cases hhi
    exact ⟨_, hr, lo, [], by simpa using hall, Or.inl rfl⟩
  · obtain ⟨-, hr₂, -, -, hrun'⟩ := takeAll_ok hhi
    have hall' := (hrun' _ (Nat.le_refl _)).all
    refine ⟨lo.map .plain ++ .plain ',' :: hi.map .plain, ?_, lo, hi, ?_, Or.inr rfl⟩
    · rw [hr, hr₁, show ts = _ from hr₂, List.append_assoc]
      rfl
    · exact fun d hd => (List.mem_append.mp hd).elim (hall d) (hall' d)

/-- Either nothing is taken, or there are bounds in front of a closing brace. -/
theorem bounds_ok {r s : Reader} {b : Bounds} (h : bounds r = .ok (b, s)) :
    (b = .literal ∧ s = r ∧ (r.rest.head? = some (.plain '}') ∨
      ∃ x r₁, boundDigits r = .ok (x, r₁) ∧ r₁.rest.head? ≠ some (.plain '}'))) ∨
    (r.rest.head? ≠ some (.plain '}') ∧ ∃ lo hi r₁ ts pos, boundDigits r = .ok ((lo, hi), r₁) ∧
      r₁.rest = .plain '}' :: ts ∧ ts ≠ [.dangling] ∧
      (leastOf lo >>= boundsOf r.pos hi) { r₁ with rest := ts, pos } = .ok (b, s)) := by
  rw [bounds_eq] at h
  obtain ⟨_, _, hget, h⟩ := bind_ok h
  cases hget
  dsimp only at h
  split at h
  · next hhead =>
    cases h
    exact Or.inl ⟨rfl, rfl, Or.inl hhead⟩
  · next hhead =>
    obtain ⟨⟨lo, hi⟩, r₁, hdigits, hrest⟩ := bind_ok h
    obtain ⟨closed, r₂, hclosed, h⟩ := bind_ok hrest
    rcases accept_ok hclosed with ⟨rfl, hopen, rfl⟩ | ⟨ts, pos, rfl, hrest, hne, rfl⟩
    · cases h
      exact Or.inl ⟨rfl, rfl, Or.inr ⟨_, _, hdigits, hopen⟩⟩
    · exact Or.inr ⟨hhead, lo, hi, r₁, ts, pos, hdigits, hrest, hne, h⟩

theorem bounds_onward {r s : Reader} {b : Bounds} (h : bounds r = .ok (b, s)) :
    Onward r.rest s.rest := by
  rcases bounds_ok h with ⟨-, rfl, -⟩ | ⟨-, lo, hi, r₁, ts, pos, hdigits, hrest, hne, h⟩
  · exact .here _
  · have hbounds : Agrees true [] ts.length _ _ :=
      (agrees_leastOf lo).bind (agrees_boundsOf r.pos r.pos hi)
    have honward : Onward r.rest r₁.rest :=
      (agrees_boundDigits : Agrees false [] _ _ _).onward (Nat.le_refl _) hdigits
    rw [hrest] at honward
    exact honward.trans (.take hne (hbounds.onward (Nat.le_refl _) h))

/-- Bounds are the same, unless the numbers go on to the end of the pattern and the brace that
closes them stands in the tokens behind. -/
theorem bounds_same {r r' s s' : Reader} {b b' : Bounds} (halike : Alike more r r')
    (h : bounds r = .ok (b, s)) (h' : bounds r' = .ok (b', s'))
    (hend : ∀ vs ws, more = vs ++ Token.plain '}' :: ws → ¬ IsBounds (r.rest ++ vs)) :
    b' = b ∧ Alike more s s' := by
  have hagree {x x' : Text × Text} {r₁ r₁' : Reader} (hdigits : boundDigits r = .ok (x, r₁))
      (hdigits' : boundDigits r' = .ok (x', r₁')) (hne : r₁.rest ≠ []) :
      x' = x ∧ Alike more r₁ r₁' :=
    agrees_boundDigits.same (Nat.le_refl _) halike hdigits hdigits' (Or.inr hne)
  rcases bounds_ok h with ⟨rfl, rfl, hwhy⟩ | ⟨hhead, lo, hi, r₁, ts, pos, hdigits, hrest, -, h⟩
  · rcases bounds_ok h' with ⟨rfl, rfl, -⟩ |
      ⟨hhead', lo, hi, r₁', ts', pos', hdigits', hrest', -, -⟩
    · exact ⟨rfl, halike⟩
    · exfalso
      rcases hwhy with hhead | ⟨x, r₁, hdigits, hopen⟩
      · rw [halike.rest, List.head?_append, hhead] at hhead'
        exact hhead' rfl
      · by_cases hnil : r₁.rest = []
        · -- the first reader has taken all that is left for numbers
          obtain ⟨used, hr, hused⟩ := boundDigits_ok hdigits
          obtain ⟨used', hr', hused'⟩ := boundDigits_ok hdigits'
          rw [hnil, List.append_nil] at hr
          rw [halike.rest, hr, hrest'] at hr'
          have hne : used' ≠ [] := by
            rintro rfl
            rw [halike.rest, hr, hr'] at hhead'
            exact hhead' rfl
          obtain ⟨vs, rfl, hmore⟩ := hused.cut hr'
          exact hend vs ts' hmore ⟨hr ▸ hne, hr ▸ hused'⟩
        · obtain ⟨-, halike₁⟩ := hagree hdigits hdigits' hnil
          rw [halike₁.rest] at hrest'
          obtain ⟨t, us, hcons⟩ := List.exists_cons_of_ne_nil hnil
          rw [hcons] at hopen hrest'
          exact hopen (congrArg some (List.cons.inj hrest').1)
  · have hne : r₁.rest ≠ [] := by rw [hrest]; exact List.cons_ne_nil _ _
    rcases bounds_ok h' with ⟨rfl, rfl, hhead' | ⟨x, r₁', hdigits', hopen⟩⟩ |
      ⟨-, lo', hi', r₁', ts', pos', hdigits', hrest', -, h'⟩
    · exfalso
      have honward : Onward r.rest r₁.rest :=
        (agrees_boundDigits : Agrees false [] _ _ _).onward (Nat.le_refl _) hdigits
      obtain ⟨t, us, hcons⟩ := List.exists_cons_of_ne_nil (honward.ne_nil hne)
      rw [halike.rest, hcons] at hhead'
      rw [hcons] at hhead
      exact hhead hhead'
    · obtain ⟨-, halike₁⟩ := hagree hdigits hdigits' hne
      rw [halike₁.rest, hrest] at hopen
      exact absurd rfl hopen
    · obtain ⟨hx, halike₁⟩ := hagree hdigits hdigits' hne
      obtain ⟨rfl, rfl⟩ := Prod.mk.inj hx
      rw [halike₁.rest, hrest, List.cons_append] at hrest'
      obtain ⟨-, rfl⟩ := List.cons.inj hrest'
      have hread : Agrees true more ts.length _ _ :=
        (agrees_leastOf lo').bind (agrees_boundsOf r.pos r'.pos hi')
      exact hread.same (Nat.le_refl _) (halike₁.move _ _ _) h h' (Or.inl rfl)

end LineSift.Regex.Parse
