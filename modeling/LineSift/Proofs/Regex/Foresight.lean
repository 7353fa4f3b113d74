import LineSift.Proofs.Regex.Evidence
import LineSift.Proofs.Regex.Groups

/-!
# Errors in the parts of a pattern

Names, escapes, sets, repetitions and flags are read with the tokens taken last in view.  An escape
for a code point is behind its backslash and letter (`foresees_hexEscape`), the bounds of a
repetition are behind their brace (`foresees_bounds`), and the flags for a whole pattern are behind
the parenthesis of their group (`foresees_flagChange`).
-/

namespace LineSift.Regex.Parse

variable {α β : Type} {all last : List Token}

/-! ## Names -/

/-- Reading a name up to its terminator is refused in documented ways only, by induction on what is
left of the pattern. -/
theorem foresees_nameUntil (terminator : CodePoint) (kind read : Text) (n : Nat) :
    Foresees all [] (nameUntil terminator kind read n) := by
  induction n generalizing read with
  | zero => exact foresees_pure _
  | succ n ih =>
    rw [nameUntil]
    refine .next (fun t => .forget ?_) ?_
    · dsimp only
      split
      · split
        · exact foresees_fail _ _
        · exact foresees_pure _
      · exact ih _
    · dsimp only
      split
      · exact foresees_fail _ _
      · exact foresees_fail _ _

theorem foresees_nameTo (terminator : CodePoint) (kind : Text) :
    Foresees all [] (nameTo terminator kind) :=
  .get_bind fun _ _ => foresees_nameUntil _ _ _ _

/-- The name of a group is refused for its letters alone. -/
theorem foresees_groupName (terminator : CodePoint) : Foresees all [] (groupName terminator) := by
  refine (foresees_nameTo _ _).bind fun name => ?_
  split
  · exact foresees_pure _
  · exact foresees_fail _ _

/-! ## Escapes -/

/-- A number below 110000 in base sixteen is that of a code point, so it is not refused. -/
theorem foresees_numbered (written : Text) {n : Nat} (h : n < 0x110000) :
    Foresees all last (numbered written n) := by
  unfold numbered
  split
  · exact foresees_pure _
  · next hnone => exact absurd (CodePoint.ofNat?_eq_none.mp hnone) (Nat.not_le.mpr h)

/-- Only eight digits can be the number of no code point. -/
theorem foresees_hexEscape {letter : CodePoint} {count : Nat}
    (h : count ≤ 5 ∨ letter = 'U' ∧ count = 8) :
    Foresees all [.escaped letter] (hexEscape letter count) := by
  refine .takeWhile fun digits hdigits hlength => ?_
  dsimp only
  split
  · next hcount =>
    rcases h with h | ⟨rfl, rfl⟩
    · exact foresees_numbered _ (Text.digitsValue_short (Nat.le_trans hlength h))
    · unfold numbered
      split
      · exact foresees_pure _
      · split
        · exact foresees_fail _ _
        · next hhuge =>
          refine .given fun hlast => foresees_throw ?_
          exact .hugeCodePoint hlast hcount hdigits (Nat.not_lt.mp hhuge)
  · exact foresees_fail _ _

/-- A name of a character is refused in the documented way if there is none of that name. -/
theorem foresees_namedEscape : Foresees all last namedEscape := by
  refine .accept (.forget ?_) (foresees_fail _ _)
  refine (foresees_nameTo _ _).bind fun name => ?_
  split
  · exact foresees_pure _
  · exact foresees_fail _ _

/-- An escape for a code point is foreseen from its letter: it is one of three that count digits, or
a name. -/
theorem foresees_codeEscape {c : CodePoint} {step : Parse CodePoint}
    (h : codeEscape? c = some step) :
    Foresees all [.escaped c] step := by
  unfold codeEscape? at h
  split at h
  · cases h
    exact foresees_hexEscape (Or.inl (by decide))
  split at h
  · cases h
    exact foresees_hexEscape (Or.inl (by decide))
  split at h
  · next hc =>
    cases h
    exact foresees_hexEscape (Or.inr ⟨hc, rfl⟩)
  split at h
  · cases h
    exact foresees_namedEscape
  · cases h

theorem foresees_itself (c : CodePoint) : Foresees all last (itself c) := by
  unfold itself
  split
  · exact foresees_fail _ _
  · exact foresees_pure _

/-- Three octal digits are refused in the documented way from 400 on. -/
theorem foresees_octal (digits : Text) : Foresees all last (octal digits) := by
  unfold octal
  dsimp only
  split
  · exact foresees_pure _
  · exact foresees_fail _ _

/-- What stands behind a backslash in a set is foreseen from the code point behind it. -/
theorem foresees_memberEscape (c : CodePoint) : Foresees all [.escaped c] (memberEscape c) := by
  unfold memberEscape
  split
  · exact foresees_pure _
  split
  · exact foresees_pure _
  split
  · next hstep => exact (foresees_codeEscape hstep).bind fun _ => foresees_pure _
  split
  · refine .takeWhile fun digits _ _ => ?_
    exact (foresees_octal _).bind fun _ => foresees_pure _
  · exact (foresees_itself c).bind fun _ => foresees_pure _

/-- A member of a set is foreseen from its token. -/
theorem foresees_member (t : Token) : Foresees all [t] (member t) := by
  cases t with
  | plain c => exact foresees_pure _
  | escaped c => exact foresees_memberEscape c
  | dangling => exact foresees_pure _

/-- A group that is asked for from behind is refused in the documented way if it cannot be looked at
yet. -/
theorem foresees_checkBehind (group : Nat) : Foresees all last (checkBehind group) := by
  refine .get_bind fun r _ => ?_
  split
  · dsimp only
    split
    · exact foresees_refuse _ _ _
    · split
      · exact foresees_fail _ _
      · exact foresees_pure _
  · exact foresees_pure _

theorem foresees_backref (flags : Flags) (group : Nat) :
    Foresees all last (backref flags group) := by
  refine (foresees_checkBehind group).bind fun _ => ?_
  exact .get_bind fun _ _ => foresees_pure _

/-- Digits behind a backslash are an octal number or that of a group. -/
theorem foresees_digitItem (flags : Flags) (c : CodePoint) (second third : Text) :
    Foresees all last (digitItem flags c second third) := by
  unfold digitItem
  split
  · exact (foresees_octal _).bind fun _ => foresees_pure _
  · refine .get_bind fun r _ => ?_
    dsimp only
    split
    · split
      · exact foresees_refuse _ _ _
      · exact foresees_backref _ _
    · exact foresees_fail _ _

/-- Whatever digits follow, reading them fails in the documented ways only. -/
theorem foresees_digitEscape (flags : Flags) (c : CodePoint) :
    Foresees all last (digitEscape flags c) := by
  rw [digitEscape_eq]
  refine .takeWhile fun second _ _ => ?_
  unfold thirdDigit
  split
  · exact .takeWhile fun third _ _ => foresees_digitItem _ _ _ _
  · rw [pure_bind]
    exact foresees_digitItem _ _ _ _

/-- **An escape** is foreseen from the code point behind its backslash. -/
theorem foresees_escape (flags : Flags) (c : CodePoint) :
    Foresees all [.escaped c] (escape flags c) := by
  unfold escape
  dsimp only
  split
  · exact foresees_pure _
  split
  · exact foresees_pure _
  split
  · exact foresees_pure _
  split
  · next hstep => exact (foresees_codeEscape hstep).bind fun _ => foresees_pure _
  split
  · exact .takeWhile fun digits _ _ => foresees_pure _
  split
  · exact foresees_digitEscape _ _
  · exact (foresees_itself c).bind fun _ => foresees_pure _

/-! ## Sets -/

/-- What follows a member of a set: a range, which needs one more member, or the next member. -/
theorem foresees_setTail (asciiOnly : Bool) (read : List SetItem) (t : Token) (first : Member)
    (dash : Bool) (start n : Nat)
    (ih : ∀ read, Foresees all [] (setItems asciiOnly start read n)) :
    Foresees all last (setTail asciiOnly read t first dash start n) := by
  cases dash with
  | false => exact .forget (ih _)
  | true =>
    refine .next (fun u => .drop ?_) (foresees_failAt _ _)
    dsimp only
    split
    · exact foresees_pure _
    refine (foresees_member u).bind fun second => ?_
    split
    · split
      · exact foresees_fail _ _
      · exact ih _
    · exact foresees_fail _ _

/-- The members of a set, by induction on their number: none of them looks further back than to its
own token. -/
theorem foresees_setItems (asciiOnly : Bool) (start : Nat) (read : List SetItem) (n : Nat) :
    Foresees all last (setItems asciiOnly start read n) := by
  induction n generalizing read last with
  | zero => exact foresees_pure _
  | succ n ih =>
    rw [setItems_succ]
    refine .next (fun t => .drop ?_) (foresees_failAt _ _)
    dsimp only
    split
    · exact foresees_pure _
    refine (foresees_member t).bind fun first => ?_
    refine .accept ?_ ?_
    · exact foresees_setTail _ _ _ _ _ _ _ fun read => ih read
    · exact foresees_setTail _ _ _ _ _ _ _ fun read => ih read

theorem foresees_bracketSet (flags : Flags) : Foresees all last (bracketSet flags) := by
  refine .get_bind fun r _ => ?_
  refine .accept ?_ ?_
  · refine .get_bind fun _ _ => ?_
    exact (foresees_setItems _ _ _ _).bind fun _ => foresees_pure _
  · refine .get_bind fun _ _ => ?_
    exact (foresees_setItems _ _ _ _).bind fun _ => foresees_pure _

/-! ## Repetitions -/

/-- A repetition is refused for what is repeated, and its bounds have been looked at before. -/
theorem foresees_quantify (start lo : Nat) (hi : Option Nat) (read : List Item) :
    Foresees all last (quantify start lo hi read) := by
  unfold quantify
  split
  · exact foresees_failAt _ _
  · dsimp only
    split
    · exact foresees_refuseAt _ _ _
    split
    · exact foresees_refuseAt _ _ _
    refine .accept (foresees_pure _) ?_
    exact .accept (foresees_pure _) (foresees_pure _)

/-- A bound is refused in two ways that are not documented, and both are told from its digits. -/
theorem foresees_bound {digits : Text} (h : IsBound all digits) :
    Foresees all last (bound digits) := by
  unfold bound
  dsimp only
  split
  · next hlong => exact (foresees_throw (.hugeNumeral h hlong)).bind_fails (fails_throw _) _
  split
  · next hhuge => exact (foresees_throw (.hugeRepeat h hhuge)).bind_fails (fails_throw _) _
  · exact foresees_pure _

/-- The lower bound, which can be left out. -/
theorem foresees_leastOf {lo : Text} (h : IsBound all lo) : Foresees all last (leastOf lo) := by
  unfold leastOf
  split
  · exact foresees_pure _
  · exact foresees_bound h

/-- The upper bound, which can be left out or be less than the lower one. -/
theorem foresees_boundsOf {hi : Text} (h : IsBound all hi) (start least : Nat) :
    Foresees all last (boundsOf start hi least) := by
  unfold boundsOf
  split
  · exact foresees_pure _
  refine (foresees_bound h).bind fun most => ?_
  dsimp only
  split
  · exact foresees_refuseAt _ _ _
  · exact foresees_pure _

/-- The bounds are looked at when the brace that closes them has been read, or not at all. -/
theorem foresees_closeBounds {here : Reader} (hhere : Reads all [] here) {lo hi : Text}
    (hlo : last <:+: all → IsBound all lo) (hhi : last <:+: all → IsBound all hi) :
    Foresees all last (accept '}' >>= fun closed =>
      if closed then leastOf lo >>= boundsOf here.pos hi
      else set here >>= fun _ => pure Bounds.literal) := by
  refine .given fun hlast => .accept (.forget ?_) ?_
  · exact (foresees_leastOf (hlo hlast)).bind fun least => foresees_boundsOf (hhi hlast) _ _
  · exact .set_bind hhere (foresees_pure _)

/-- **The bounds of a repetition** are foreseen from the tokens behind the brace: the digits that
are taken stand behind the brace, or behind the comma, which is what makes them bounds. -/
theorem foresees_bounds : Foresees all [.plain '\x7b'] bounds := by
  rw [bounds_eq]
  refine .get_bind fun here hhere => ?_
  split
  · exact foresees_pure _
  unfold boundDigits
  simp only [bind_assoc, pure_bind]
  refine .takeAll fun lo hlo => ?_
  have hlower (more : List Token) (h : [Token.plain '\x7b'] ++ lo.map .plain ++ more <:+: all) :
      IsBound all lo :=
    ⟨hlo, _, Or.inl rfl, (List.prefix_append _ _).isInfix.trans h⟩
  refine .accept ?_ ?_
  · refine .takeAll fun hi hhi => ?_
    refine foresees_closeBounds hhere.forget (fun h => ?_) (fun h => ?_)
    · rw [List.append_assoc] at h
      exact hlower _ h
    · rw [List.append_assoc] at h
      exact ⟨hhi, _, Or.inr rfl, (List.suffix_append _ _).isInfix.trans h⟩
  · have hlast (h : [Token.plain '\x7b'] ++ lo.map .plain <:+: all) : IsBound all lo :=
      hlower [] (by rwa [List.append_nil])
    exact foresees_closeBounds hhere.forget hlast hlast

/-! ## Groups -/

/-- A comment that ends with its line refuses nothing. -/
theorem foresees_skipLine (n : Nat) : Foresees all [] (skipLine n) := by
  induction n with
  | zero => exact foresees_pure _
  | succ n ih =>
    rw [skipLine]
    refine .next (fun t => .forget ?_) (foresees_pure _)
    dsimp only
    split
    · exact foresees_pure _
    · exact ih

/-- A comment in parentheses is refused in the documented way if it does not end. -/
theorem foresees_skipComment (start n : Nat) : Foresees all [] (skipComment start n) := by
  induction n with
  | zero => exact foresees_pure _
  | succ n ih =>
    rw [skipComment]
    refine .peek_bind fun o => ?_
    cases o with
    | none => exact foresees_failAt _ _
    | some t =>
      dsimp only
      refine .next (fun u => .forget ?_) ?_
      · split
        · exact foresees_pure _
        · exact ih
      · split
        · exact foresees_pure _
        · exact ih

/-- A group is opened unless its name is taken; writing it down takes no token. -/
theorem foresees_openGroup (name : Option Text) : Foresees all last (openGroup name) := by
  refine .get_bind fun r hr => ?_
  have hset (count : Nat) (names : List (Text × Nat)) :
      Foresees all last
        (do set { r with groupCount := count, names := names }; return count : Parse Nat) :=
    .set_bind ⟨hr.forget.place, hr.flags⟩ (foresees_pure _)
  dsimp only
  split
  · split
    · exact foresees_refuse _ _ _
    · exact hset _ _
  · exact hset _ _

/-- A group is closed by writing down how wide it is. -/
theorem foresees_closeGroup (number : Nat) (width : Width) :
    Foresees all last (closeGroup number width) :=
  .modify_bind (g := pure) (fun _ hr => ⟨hr.forget.place, hr.flags⟩) (foresees_pure _)

theorem foresees_closing (start : Nat) : Foresees all last (closing start) :=
  .accept (foresees_pure _) (foresees_failAt _ _)

/-- A group that is asked for by its name. -/
theorem foresees_namedBackref (flags : Flags) : Foresees all [] (namedBackref flags) := by
  refine (foresees_groupName _).bind fun name => .get_bind fun _ _ => ?_
  split
  · exact foresees_fail _ _
  · dsimp only
    split
    · exact foresees_refuse _ _ _
    · exact foresees_backref _ _

/-- A group on which a condition depends, by its name or its number. -/
theorem foresees_condition : Foresees all [] condition := by
  refine (foresees_nameTo _ _).bind fun name => .get_bind fun _ hr => ?_
  have hcheck (group : Nat) :
      Foresees all [] (do checkBehind group; return group : Parse Nat) :=
    (foresees_checkBehind _).bind fun _ => foresees_pure _
  dsimp only
  split
  · split
    · exact hcheck _
    · exact foresees_refuse _ _ _
  · cases Text.readInt? name with
    | none => exact foresees_refuse _ _ _
    | some i =>
      cases i with
      | negSucc i => exact foresees_refuse _ _ _
      | ofNat group =>
        dsimp only
        split
        · exact foresees_refuse _ _ _
        split
        · exact foresees_refuse _ _ _
        split
        · exact foresees_refuse _ _ _
        split
        · exact .set_bind ⟨hr.place, hr.flags⟩ (hcheck group)
        · exact hcheck group

theorem foresees_behindItem (negated : Bool) (body : Item) :
    Foresees all last (behindItem negated body) := by
  unfold behindItem
  split
  · exact .modify_bind (fun r hr => ⟨hr.forget.place, hr.flags⟩) (foresees_pure _)
  · exact foresees_pure _

/-! ## Flags -/

theorem foresees_notFlag (t : Token) (expected : String) :
    Foresees all last (notFlag t expected : Parse α) := by
  unfold notFlag
  exact foresees_fail _ _

/-- The flags behind a dash hold within a group only, so they are refused in documented ways. -/
theorem foresees_flagsOff (off : Flags) (f : Flag) (n : Nat) :
    Foresees all [] (flagsOff off f n) := by
  induction n generalizing off f with
  | zero => exact foresees_pure _
  | succ n ih =>
    rw [flagsOff]
    dsimp only
    split
    · exact foresees_refuse _ _ _
    refine .next (fun t => .forget ?_) (foresees_fail _ _)
    dsimp only
    split
    · exact foresees_pure _
    split
    · exact ih _ _
    · exact foresees_notFlag _ _

theorem foresees_flagsAfterDash : Foresees all last flagsAfterDash := by
  refine .next (fun t => .forget ?_) (foresees_fail _ _)
  dsimp only
  split
  · exact .get_bind fun _ _ => foresees_flagsOff _ _ _
  · exact foresees_notFlag _ _

section

variable (front : List Token)

/-- The flags that are turned on are those of the letters that have been read. -/
theorem foresees_flagsOn {g : Flags × Token → Parse β}
    (hg : ∀ letters : Text, (∀ c ∈ letters, (Flag.ofLetter? c).isSome) → ∀ t,
      Foresees all (front ++ letters.map .plain ++ [t]) (g (letters.filterMap Flag.ofLetter?, t)))
    (hend : ∀ on, Foresees all [] (g (on, .dangling))) (letters : Text) {on : Flags} {f : Flag}
    (hletters : ∀ c ∈ letters, (Flag.ofLetter? c).isSome)
    (hon : letters.filterMap Flag.ofLetter? = on ++ [f]) (n : Nat) :
    Foresees all (front ++ letters.map .plain) (flagsOn on f n >>= g) := by
  induction n generalizing letters on f with
  | zero => exact .forget (hend on)
  | succ n ih =>
    rw [flagsOn]
    dsimp only
    split
    · rw [bind_assoc]
      exact foresees_refuse _ _ _
    split
    · rw [bind_assoc]
      exact foresees_refuse _ _ _
    rw [bind_assoc]
    refine .next (fun t => ?_) (foresees_refuse _ _ _)
    dsimp only
    split
    · rw [pure_bind, ← hon]
      exact hg letters hletters t
    cases hflag : flag? t with
    | none => exact (foresees_notFlag _ _).bind_fails (fails_fail _ _) _
    | some f' =>
      obtain ⟨c, hc, hf'⟩ := Option.bind_eq_some_iff.mp hflag
      obtain rfl : t = .plain c := by
        cases t <;> cases hc
        rfl
      have hmore : Foresees all (front ++ (letters ++ [c]).map .plain)
          (flagsOn (on ++ [f]) f' n >>= g) := by
        refine ih _ ?_ ?_
        · intro d hd
          rcases List.mem_append.mp hd with hd | hd
          · exact hletters d hd
          · rw [List.mem_singleton.mp hd, hf']
            rfl
        · rw [List.filterMap_append, hon, List.filterMap_cons_some hf', List.filterMap_nil]
      rwa [List.map_append, ← List.append_assoc] at hmore

/-- Behind the flags comes the end of a change for the whole pattern, or else a group, which keeps
its flags to itself. -/
theorem foresees_flagsBehind {g : FlagChange → Parse β} {on : Flags} {t : Token}
    (hwhole : t = .plain ')' → Foresees all last (g (.whole on)))
    (hgroup : ∀ on off, Foresees all [] (g (.forGroup on off))) :
    Foresees all last (flagsBehind on t >>= g) := by
  have hflags (off : Flags) : Foresees all [] (groupFlags on off >>= g) := by
    unfold groupFlags
    dsimp only
    split
    · rw [bind_assoc]
      exact foresees_refuse _ _ _
    split
    · rw [bind_assoc]
      exact foresees_refuse _ _ _
    · exact hgroup on off
  unfold flagsBehind
  split
  · next ht => exact hwhole ht
  dsimp only
  split
  · rw [bind_assoc]
    exact foresees_refuse _ _ _
  split
  · rw [bind_assoc]
    exact foresees_flagsAfterDash.bind hflags
  · exact .forget (hflags [])

/-- **A change of flags** for the whole pattern is foreseen from the tokens of its letters, which is
where two of them can exclude each other. -/
theorem foresees_flagChange {g : FlagChange → Parse β} {t : Token}
    (hwhole : ∀ letters : Text, (∀ c ∈ letters, (Flag.ofLetter? c).isSome) →
      Foresees all (front ++ letters.map .plain ++ [Token.plain ')'])
        (g (.whole (letters.filterMap Flag.ofLetter?))))
    (hgroup : ∀ on off, Foresees all [] (g (.forGroup on off))) :
    Foresees all (front ++ [t]) (flagChange t >>= g) := by
  rw [flagChange_eq, bind_assoc]
  unfold flagsBefore
  cases hflag : flag? t with
  | none =>
    refine foresees_flagsBehind (fun ht => ?_) hgroup
    have hnone := hwhole [] (by simp)
    rwa [List.map_nil, List.append_nil, ← ht] at hnone
  | some f =>
    obtain ⟨c, hc, hf⟩ := Option.bind_eq_some_iff.mp hflag
    obtain rfl : t = .plain c := by
      cases t <;> cases hc
      rfl
    dsimp only
    rw [bind_assoc]
    refine .get_bind fun _ _ => foresees_flagsOn front ?_ ?_ [c] ?_ ?_ _
    · intro letters hletters t
      refine foresees_flagsBehind (fun ht => ?_) hgroup
      obtain rfl : t = .plain ')' := ht
      exact hwhole letters hletters
    · intro on
      exact foresees_flagsBehind (fun ht => by cases ht) hgroup
    · intro d hd
      rw [List.mem_singleton.mp hd, hf]
      rfl
    · rw [List.filterMap_cons_some hf, List.filterMap_nil, List.nil_append]

end

end LineSift.Regex.Parse
