import LineSift.Proofs.Regex.Parts

/-!
# The steps of groups within a longer pattern

Groups are opened and closed, asked for by conditionals, and can begin with flags.  Each of these
steps is the same in front of more tokens, and a parenthesis that closes a group is needed in any
case (`needs_closing`): it is what makes nested patterns end before the end of the pattern.
-/

namespace LineSift.Regex.Parse

variable {α β : Type} {more : List Token} {toEnd : Bool} {n : Nat}

/-! ## Steps that do not move -/

/-- A reader stands where another one stood. -/
structure Still (r s : Reader) : Prop where
  rest : s.rest = r.rest
  flags : s.flags = r.flags
  groupCount : s.groupCount = r.groupCount
  closed : s.closed = r.closed
  names : s.names = r.names

/-- A step that leaves the reader where it stands. -/
def Stays (f : Parse α) : Prop := ∀ r a s, f r = .ok (a, s) → Still r s

theorem Still.refl (r : Reader) : Still r r := ⟨rfl, rfl, rfl, rfl, rfl⟩

/-- What is left alone stays alike. -/
theorem Alike.stay {r r' s s' : Reader} (h : Alike more r r') (hs : Still r s)
    (hs' : Still r' s') : Alike more s s' where
  rest := by rw [hs'.rest, hs.rest, h.rest]
  flags := by rw [hs'.flags, h.flags]
  groupCount := by rw [hs'.groupCount, hs.groupCount, h.groupCount]
  closed := by rw [hs'.closed, hs.closed, h.closed]
  names := by rw [hs'.names, hs.names, h.names]

theorem Still.onward {r s : Reader} (h : Still r s) : Onward r.rest s.rest := by
  rw [h.rest]
  exact .here _

/-- Steps that leave the rest of the tokens alone agree, whatever they check. -/
theorem Stays.agrees {f f' : Parse Unit} (h : Stays f) (h' : Stays f') :
    Agrees toEnd more n f f' where
  onward := fun _ hf => (h _ _ _ hf).onward
  same := fun _ halike hf hf' _ => ⟨rfl, halike.stay (h _ _ _ hf) (h' _ _ _ hf')⟩

/-- Behind such a step the next one needs what it needs without it. -/
theorem Stays.needs_bind {f : Parse α} {g : α → Parse β} (h : Stays f) (hg : ∀ a, Needs (g a)) :
    Needs (f >>= g) := by
  intro r b s hr hnil
  obtain ⟨a, r₁, hf, hgr⟩ := bind_ok hr
  refine hg a _ _ _ hgr ?_
  rw [(h _ _ _ hf).rest, hnil]

theorem stays_modify {g : Reader → Reader} (h : ∀ r, Still r (g r)) :
    Stays (modify g : Parse Unit) := by
  intro r u s hs
  cases hs
  exact h r

/-- A step that only the first reader can take. -/
theorem Fails.agrees_right {f f' : Parse α} (hf : ∀ r a s, f r = .ok (a, s) → Onward r.rest s.rest)
    (hf' : Fails f') : Agrees toEnd more n f f' where
  onward := fun _ h => hf _ _ _ h
  same := fun _ _ _ h' => absurd h' (hf' _ _ _)

/-- A step that is taken unless a token comes next. -/
theorem Agrees.peek_unless {t : Token} {e e' g g' : Parse β} (he : Fails e) (he' : Fails e')
    (h : Agrees toEnd more n g g') :
    Agrees toEnd more n (peek >>= fun o => if o = some t then e else g)
      (peek >>= fun o => if o = some t then e' else g') := by
  have hok {e g : Parse β} (he : Fails e) {r s : Reader} {b : β}
      (hr : (peek >>= fun o => if o = some t then e else g) r = .ok (b, s)) : g r = .ok (b, s) := by
    obtain ⟨o, r₁, hpeek, hr⟩ := bind_ok hr
    cases hpeek
    split at hr
    · exact absurd hr (he _ _ _)
    · exact hr
  exact ⟨fun hn hr => h.onward hn (hok he hr),
    fun hn halike hr hr' hend => h.same hn halike (hok he hr) (hok he' hr') hend⟩

/-- Where a token would be refused, the next step needs one that is there. -/
theorem needs_peek_unless {t : Token} {e g : Parse β} (he : Fails e) (hg : Needs g) :
    Needs (peek >>= fun o => if o = some t then e else g) := by
  intro r b s hr
  obtain ⟨o, r₁, hpeek, hr⟩ := bind_ok hr
  cases hpeek
  split at hr
  · exact absurd hr (he _ _ _)
  · exact hg _ _ _ hr

/-! ## Opening and closing -/

/-- A group that is opened gets the next number, and its name stands for it. -/
theorem openGroup_ok {name : Option Text} {r s : Reader} {number : Nat}
    (h : openGroup name r = .ok (number, s)) : number = r.groupCount + 1 ∧
      s = { r with
        groupCount := r.groupCount + 1
        names := r.names ++ (name.map (·, r.groupCount + 1)).toList } := by
  unfold openGroup at h
  obtain ⟨_, _, hget, h⟩ := bind_ok h
  cases hget
  cases name with
  | none =>
    cases h
    simp
  | some text =>
    dsimp only at h
    cases hlookup : r.names.lookup text with
    | some first =>
      rw [hlookup] at h
      exact absurd h ((fails_fail _ _).bind _ _ _ _)
    | none =>
      rw [hlookup] at h
      cases h
      simp

/-- A group is opened in the same way with more tokens behind it. -/
theorem agrees_openGroup (name : Option Text) :
    Agrees toEnd more n (openGroup name) (openGroup name) where
  onward := by
    intro r s number _ h
    obtain ⟨-, rfl⟩ := openGroup_ok h
    exact .here _
  same := by
    intro r r' s s' number number' _ halike h h' _
    obtain ⟨rfl, rfl⟩ := openGroup_ok h
    obtain ⟨rfl, rfl⟩ := openGroup_ok h'
    rw [halike.groupCount, halike.names]
    exact ⟨rfl, halike.rest, halike.flags, rfl, halike.closed, rfl⟩

theorem agrees_closeGroup (number : Nat) (width : Width) :
    Agrees toEnd more n (closeGroup number width) (closeGroup number width) where
  onward := by
    intro r s u _ h
    cases h
    exact .here _
  same := by
    intro r r' s s' u u' _ halike h h' _
    cases h
    cases h'
    exact ⟨rfl, halike.rest, halike.flags, halike.groupCount,
      congrArg ((number, width) :: ·) halike.closed, halike.names⟩

theorem agrees_closing (start start' : Nat) :
    Agrees toEnd more n (closing start) (closing start') :=
  .accept (Or.inl (fails_failAt _ _).needs) (fun _ _ => agrees_pure _) ((fails_failAt _ _).agrees _)

theorem needs_closing (start : Nat) : Needs (closing start) :=
  needs_accept (fails_failAt _ _).needs

/-- A group that is asked for by name is the same one with more tokens behind it. -/
theorem agrees_namedBackref (flags : Flags) :
    Agrees toEnd more n (namedBackref flags) (namedBackref flags) := by
  refine (agrees_groupName _).bind fun name => .get_bind fun r r' _ halike => ?_
  rw [halike.names, halike.closed]
  cases r.names.lookup name with
  | none => exact (fails_fail _ _).agrees _
  | some group =>
    dsimp only
    split
    · exact ((fails_fail _ _).bind _).agrees _
    · exact agrees_backref _ _

/-- What looks behind is as wide as what it looks for, and takes nothing. -/
theorem stays_behindItem (negated : Bool) (body : Item) {r s : Reader} {item : Item}
    (h : behindItem negated body r = .ok (item, s)) : Still r s ∧
      item = { node := .behind negated body.width.least body.node, width := ⟨0, 0⟩ } := by
  unfold behindItem at h
  split at h
  · cases h
    exact ⟨⟨rfl, rfl, rfl, rfl, rfl⟩, rfl⟩
  · cases h
    exact ⟨.refl _, rfl⟩

theorem agrees_behindItem (negated : Bool) (body : Item) :
    Agrees toEnd more n (behindItem negated body) (behindItem negated body) where
  onward := fun _ h => (stays_behindItem _ _ h).1.onward
  same := by
    intro r r' s s' item item' _ halike h h' _
    obtain ⟨hs, rfl⟩ := stays_behindItem _ _ h
    obtain ⟨hs', rfl⟩ := stays_behindItem _ _ h'
    exact ⟨rfl, halike.stay hs hs'⟩

/-! ## Conditions -/

/-- The group that a conditional asks for by a name or a number. -/
def askedGroup? (names : List (Text × Nat)) (name : Text) : Option Nat :=
  if isName name then names.lookup name
  else match Text.readInt? name with
    | some (.ofNat group) => some group
    | _ => none

/-- A condition asks for a group that is known by its name or number when it is read. -/
theorem condition_ok {r s : Reader} {group : Nat} (h : condition r = .ok (group, s)) :
    ∃ name r₁, nameTo ')' "group name" r = .ok (name, r₁) ∧ Still r₁ s ∧
      askedGroup? r₁.names name = some group := by
  have hchecked {number : Nat} {r₂ : Reader}
      (h : (do checkBehind number; return number : Parse Nat) r₂ = .ok (group, s)) :
      s = r₂ ∧ group = number := by
    obtain ⟨u, r₃, hcheck, h⟩ := bind_ok h
    cases h
    exact ⟨checkBehind_ok hcheck, rfl⟩
  unfold condition at h
  obtain ⟨name, r₁, hname, h⟩ := bind_ok h
  refine ⟨name, r₁, hname, ?_⟩
  obtain ⟨_, _, hget, h⟩ := bind_ok h
  cases hget
  unfold askedGroup?
  dsimp only at h
  by_cases hisName : isName name = true
  · rw [if_pos hisName] at h ⊢
    cases hlookup : r₁.names.lookup name with
    | none =>
      rw [hlookup] at h
      exact absurd h ((fails_fail _ _).bind _ _ _ _)
    | some number =>
      rw [hlookup] at h
      obtain ⟨_, _, hpure, h⟩ := bind_ok h
      cases hpure
      obtain ⟨rfl, rfl⟩ := hchecked h
      exact ⟨.refl _, rfl⟩
  · rw [if_neg hisName] at h ⊢
    cases hint : Text.readInt? name with
    | none =>
      rw [hint] at h
      exact absurd h ((fails_fail _ _).bind _ _ _ _)
    | some i =>
      rw [hint] at h
      cases i with
      | negSucc i => exact absurd h ((fails_fail _ _).bind _ _ _ _)
      | ofNat number =>
        dsimp only at h ⊢
        split at h
        · exact absurd h ((fails_fail _ _).bind _ _ _ _)
        split at h
        · exact absurd h ((fails_fail _ _).bind _ _ _ _)
        split at h
        · exact absurd h ((fails_fail _ _).bind _ _ _ _)
        split at h
        · obtain ⟨_, _, hset, h⟩ := bind_ok h
          cases hset
          obtain ⟨_, _, hpure, h⟩ := bind_ok h
          cases hpure
          obtain ⟨rfl, rfl⟩ := hchecked h
          exact ⟨⟨rfl, rfl, rfl, rfl, rfl⟩, rfl⟩
        · obtain ⟨_, _, hpure, h⟩ := bind_ok h
          cases hpure
          obtain ⟨rfl, rfl⟩ := hchecked h
          exact ⟨.refl _, rfl⟩

theorem agrees_condition : Agrees toEnd more n condition condition where
  onward := by
    intro r s group _ h
    obtain ⟨name, r₁, hname, hstay, -⟩ := condition_ok h
    have honward : Onward r.rest r₁.rest :=
      (agrees_nameTo _ _ : Agrees true [] _ _ _).onward (Nat.le_refl _) hname
    exact honward.trans hstay.onward
  same := by
    intro r r' s s' group group' hn halike h h' hend
    obtain ⟨name, r₁, hname, hstay, hgroup⟩ := condition_ok h
    obtain ⟨name', r₁', hname', hstay', hgroup'⟩ := condition_ok h'
    obtain ⟨rfl, halike₁⟩ := (agrees_nameTo _ _ : Agrees true more _ _ _).same
      (Nat.le_refl _) halike
      hname hname' (Or.inl rfl)
    rw [halike₁.names, hgroup] at hgroup'
    exact ⟨(Option.some.inj hgroup').symm, halike₁.stay hstay hstay'⟩

/-! ## Flags -/

/-- Flags that are turned on are the same with more tokens behind them; the bound on their number
does not matter as long as it is greater than that of the tokens. -/
theorem agrees_flagsOn (fl : Flags) (f : Flag) {fuel fuel' : Nat} (hfuel : n < fuel)
    (hfuel' : n < fuel') : Agrees toEnd more n (flagsOn fl f fuel) (flagsOn fl f fuel') := by
  induction fuel generalizing fuel' n fl f with
  | zero => exact absurd hfuel (Nat.not_lt_zero _)
  | succ fuel ih =>
    obtain ⟨fuel', rfl⟩ := Nat.exists_eq_add_of_lt (Nat.zero_lt_of_lt hfuel')
    rw [Nat.zero_add] at hfuel' ⊢
    rw [flagsOn, flagsOn]
    dsimp only
    split
    · exact ((fails_fail _ _).bind _).agrees _
    split
    · exact ((fails_fail _ _).bind _).agrees _
    refine .next (fun m hm t => ?_) (fails_fail _ _)
    dsimp only
    split
    · exact agrees_pure _
    cases flag? t with
    | none => exact (fails_fail _ _).agrees _
    | some g => exact ih _ _ (by omega) (by omega)

theorem agrees_flagsOff (off : Flags) (f : Flag) {fuel fuel' : Nat} (hfuel : n < fuel)
    (hfuel' : n < fuel') : Agrees toEnd more n (flagsOff off f fuel) (flagsOff off f fuel') := by
  induction fuel generalizing fuel' n off f with
  | zero => exact absurd hfuel (Nat.not_lt_zero _)
  | succ fuel ih =>
    obtain ⟨fuel', rfl⟩ := Nat.exists_eq_add_of_lt (Nat.zero_lt_of_lt hfuel')
    rw [Nat.zero_add] at hfuel' ⊢
    rw [flagsOff, flagsOff]
    dsimp only
    split
    · exact ((fails_fail _ _).bind _).agrees _
    refine .next (fun m hm t => ?_) (fails_fail _ _)
    dsimp only
    split
    · exact agrees_pure _
    cases flag? t with
    | none => exact (fails_fail _ _).agrees _
    | some g => exact ih _ _ (by omega) (by omega)

theorem agrees_flagsAfterDash : Agrees toEnd more n flagsAfterDash flagsAfterDash := by
  refine .next (fun m hm t => ?_) (fails_fail _ _)
  dsimp only
  cases flag? t with
  | none => exact (fails_fail _ _).agrees _
  | some f =>
    refine .get_bind fun r r' _ halike => agrees_flagsOff _ _ (Nat.lt_succ_self _) ?_
    rw [halike.length]
    omega

/-- The flags that are turned on, and the token behind them. -/
def flagsBefore (t : Token) : Parse (Flags × Token) :=
  match flag? t with
  | some f => do flagsOn [] f ((← get).rest.length + 1)
  | none => pure ([], t)

/-- The flags of a group, unless they contradict each other. -/
def groupFlags (on off : Flags) : Parse FlagChange := do
  if .template ∈ off then fail (.globalFlag false) 1
  if on.any off.contains then fail .onAndOff 1
  return .forGroup on off

/-- What flags that are turned on are for, by the token behind them. -/
def flagsBehind (on : Flags) (last : Token) : Parse FlagChange := do
  if last = .plain ')' then return .whole on
  if .template ∈ on then fail (.globalFlag true) 1
  let off ← if last = .plain '-' then flagsAfterDash else pure []
  groupFlags on off

/-- A change of flags in two steps: those in front of the token that ends them, and what that token
asks for. -/
theorem flagChange_eq (t : Token) :
    flagChange t = (flagsBefore t >>= fun x => flagsBehind x.1 x.2) := by
  unfold flagChange flagsBefore
  cases flag? t with
  | none => rfl
  | some f => exact (bind_assoc _ _ _).symm

theorem agrees_flagsBefore (t : Token) :
    Agrees toEnd more n (flagsBefore t) (flagsBefore t) := by
  unfold flagsBefore
  cases flag? t with
  | none => exact agrees_pure _
  | some f =>
    refine .get_bind fun r r' _ halike => agrees_flagsOn _ _ (Nat.lt_succ_self _) ?_
    rw [halike.length]
    omega

theorem agrees_groupFlags (fl off : Flags) :
    Agrees toEnd more n (groupFlags fl off) (groupFlags fl off) := by
  unfold groupFlags
  dsimp only
  split
  · exact ((fails_fail _ _).bind _).agrees _
  split
  · exact ((fails_fail _ _).bind _).agrees _
  · exact agrees_pure _

/-- What stands behind the flags that are turned on is read in the same way. -/
theorem agrees_flagsBehind (fl : Flags) (last : Token) :
    Agrees toEnd more n (flagsBehind fl last) (flagsBehind fl last) := by
  unfold flagsBehind
  split
  · exact agrees_pure _
  dsimp only
  split
  · exact ((fails_fail _ _).bind _).agrees _
  split
  · exact agrees_flagsAfterDash.bind fun off => agrees_groupFlags _ _
  · exact (agrees_pure _).bind fun off => agrees_groupFlags _ _

/-- **A change of flags** is the same with more tokens behind it. -/
theorem agrees_flagChange (t : Token) : Agrees toEnd more n (flagChange t) (flagChange t) := by
  rw [flagChange_eq]
  exact (agrees_flagsBefore t).bind fun x => agrees_flagsBehind _ _

end LineSift.Regex.Parse
