import LineSift.Proofs.Regex.Foresight
import LineSift.Proofs.Regex.Nesting

/-!
# Why patterns are refused

Alternatives, sequences and groups call each other with less and less fuel, and none of them fails
for a reason that is not in the pattern (`nestedForesees`, by induction on the fuel).  So every
error that is not a fault of the grammar is explained by the tokens of the pattern
(`evident_of_parse_error`).
-/

namespace LineSift.Regex

namespace Parse

variable {β : Type} {all last : List Token}

/-- A token that is looked at before it is taken. -/
theorem Foresees.peek_next {p : Token → Prop} [DecidablePred p] {f : Parse β} {g : Token → Parse β}
    (hf : Foresees all last f) (hg : ∀ t, Foresees all (last ++ [t]) (g t)) :
    Foresees all last (do
      let some t ← peek | f
      if p t then f
      else
        let _ ← Parse.next
        g t) where
  ok := by
    intro r s b hr h
    obtain ⟨o, _, hpeek, h⟩ := bind_ok h
    cases hpeek
    cases hrest : r.rest with
    | nil =>
      rw [hrest] at h
      exact hf.ok hr h
    | cons t ts =>
      rw [hrest] at h
      dsimp only [List.head?_cons] at h
      split at h
      · exact hf.ok hr h
      · obtain ⟨o, r₁, hnext, h⟩ := bind_ok h
        rcases next_ok hnext with ⟨-, hnil, -⟩ | ⟨t', ts', pos, -, hcons, -, rfl⟩
        · rw [hrest] at hnil
          cases hnil
        · obtain ⟨rfl, rfl⟩ := List.cons.inj (hrest.symm.trans hcons)
          exact (hg t).ok (hr.take [t] hrest) h
  error := by
    intro r e hr h
    rcases bind_error h with h | ⟨o, _, hpeek, h⟩
    · cases h
    cases hpeek
    cases hrest : r.rest with
    | nil =>
      rw [hrest] at h
      exact hf.error hr h
    | cons t ts =>
      rw [hrest] at h
      dsimp only [List.head?_cons] at h
      split at h
      · exact hf.error hr h
      rcases bind_error h with h | ⟨o, r₁, hnext, h⟩
      · exact next_error h
      · rcases next_ok hnext with ⟨-, hnil, -⟩ | ⟨t', ts', pos, -, hcons, -, rfl⟩
        · rw [hrest] at hnil
          cases hnil
        · obtain ⟨rfl, rfl⟩ := List.cons.inj (hrest.symm.trans hcons)
          exact (hg t).error (hr.take [t] hrest) h

/-- The readers of nested patterns with this much fuel. -/
structure NestedForesees (all : List Token) (fuel : Nat) : Prop where
  alternatives (leading : Bool) (flags : Flags) : Foresees all [] (alternatives fuel leading flags)
  furtherAlternatives (flags : Flags) : Foresees all [] (furtherAlternatives fuel flags)
  sequence (leading : Bool) (flags : Flags) (read : List Item) :
    Foresees all [] (sequence fuel leading flags read)
  group (leading : Bool) (flags : Flags) (start : Nat) :
    Foresees all [.plain '('] (group fuel leading flags start)
  capture (flags : Flags) (start : Nat) (name : Option Text) :
    Foresees all [] (capture fuel flags start name)
  plainGroup (flags : Flags) (start : Nat) : Foresees all [] (plainGroup fuel flags start)
  look (flags : Flags) (start : Nat) (negated : Bool) :
    Foresees all [] (look fuel flags start negated)
  lookBehind (flags : Flags) (start : Nat) (negated : Bool) :
    Foresees all [] (lookBehind fuel flags start negated)
  conditional (flags : Flags) (start : Nat) : Foresees all [] (conditional fuel flags start)

section

variable {fuel : Nat} (ih : NestedForesees all fuel) (flags : Flags) (start : Nat)

include ih

theorem foresees_alternatives (leading : Bool) :
    Foresees all [] (alternatives (fuel + 1) leading flags) := by
  rw [alternatives]
  refine (ih.sequence _ _ _).bind fun first => .get_bind fun r _ => ?_
  exact (ih.furtherAlternatives _).bind fun _ => foresees_pure _

theorem foresees_furtherAlternatives :
    Foresees all [] (furtherAlternatives (fuel + 1) flags) := by
  rw [furtherAlternatives]
  refine .accept (.forget ?_) (foresees_pure _)
  refine (ih.sequence _ _ _).bind fun item => ?_
  exact (ih.furtherAlternatives _).bind fun _ => foresees_pure _

theorem foresees_part (leading : Bool) (read : List Item) (t : Token) :
    Foresees all [t] (part fuel leading flags read t) := by
  unfold part
  dsimp only
  split
  · exact foresees_pure _
  split
  · refine .get_bind fun _ _ => .forget ?_
    exact (foresees_skipLine _).bind fun _ => foresees_pure _
  refine .get_bind fun r _ => ?_
  split
  case h_2 => exact (foresees_escape _ _).bind fun _ => foresees_pure _
  case h_3 => exact (foresees_bracketSet _).bind fun _ => foresees_pure _
  case h_10 =>
    refine foresees_bounds.bind fun b => ?_
    cases b with
    | literal => exact foresees_pure _
    | between lo hi => exact (foresees_quantify _ _ _ _).bind fun _ => foresees_pure _
  case h_11 =>
    refine (ih.group _ _ _).bind fun g => ?_
    cases g with
    | item i => exact foresees_pure _
    | nothing => exact foresees_pure _
    | flags f => exact foresees_pure _
  case h_7 | h_8 | h_9 => exact (foresees_quantify _ _ _ _).bind fun _ => foresees_pure _
  all_goals exact foresees_pure _

theorem foresees_sequence (leading : Bool) (read : List Item) :
    Foresees all [] (sequence (fuel + 1) leading flags read) := by
  rw [sequence_succ]
  refine .peek_next (foresees_pure _) fun t => ?_
  split
  · exact foresees_pure _
  · exact (foresees_part ih _ _ _ _).bind fun x => ih.sequence _ _ _

/-- A pattern up to the parenthesis that closes it. -/
theorem NestedForesees.closed {g : Item → Parse β} (hg : ∀ body, Foresees all [] (g body)) :
    Foresees all last
      (do let body ← Parse.alternatives fuel false flags; closing start; g body) :=
  .forget ((ih.alternatives _ _).bind fun body => (foresees_closing _).bind fun _ => hg body)

theorem foresees_capture (name : Option Text) :
    Foresees all [] (capture (fuel + 1) flags start name) := by
  rw [capture]
  refine (foresees_openGroup _).bind fun number => ?_
  refine ih.closed _ _ fun body => ?_
  exact (foresees_closeGroup _ _).bind fun _ => foresees_pure _

theorem foresees_lookBehind (negated : Bool) :
    Foresees all [] (lookBehind (fuel + 1) flags start negated) := by
  rw [lookBehind]
  refine .get_bind fun _ _ => .modify_bind (fun r hr => ⟨hr.place, hr.flags⟩) ?_
  refine (ih.alternatives _ _).bind fun body => ?_
  refine .modify_bind (fun r hr => ⟨hr.place, hr.flags⟩) ?_
  refine (foresees_closing _).bind fun _ => ?_
  exact (foresees_behindItem _ _).bind fun _ => foresees_pure _

theorem foresees_conditional : Foresees all [] (conditional (fuel + 1) flags start) := by
  rw [conditional]
  refine foresees_condition.bind fun asked => (ih.sequence _ _ _).bind fun yes => ?_
  refine .accept (.forget ?_) ?_
  · refine (ih.sequence _ _ _).bind fun no => .peek_bind fun o => ?_
    dsimp only
    split
    · exact foresees_refuse _ _ _
    · exact (foresees_closing _).bind fun _ => foresees_pure _
  · exact (foresees_closing _).bind fun _ => foresees_pure _

theorem foresees_group (leading : Bool) :
    Foresees all [.plain '('] (group (fuel + 1) leading flags start) := by
  rw [group]
  refine .accept ?_ (.forget (ih.capture _ _ _))
  refine .next (fun t => ?_) (foresees_fail _ _)
  dsimp only
  split
  case h_1 =>
    refine .next (fun u => .forget ?_) (foresees_fail _ _)
    dsimp only
    split
    · exact (foresees_groupName _).bind fun name => ih.capture _ _ _
    split
    · exact (foresees_namedBackref _).bind fun _ => foresees_pure _
    · exact foresees_fail _ _
  case h_2 => exact .forget (ih.plainGroup _ _)
  case h_3 =>
    refine .get_bind fun _ _ => .forget ?_
    exact (foresees_skipComment _ _).bind fun _ => foresees_pure _
  case h_4 | h_5 => exact .forget (ih.look _ _ _)
  case h_6 =>
    refine .next (fun u => .forget ?_) (foresees_fail _ _)
    dsimp only
    split
    · exact ih.lookBehind _ _ _
    split
    · exact ih.lookBehind _ _ _
    · exact foresees_fail _ _
  case h_7 => exact .forget (ih.conditional _ _)
  case h_8 => exact ih.closed _ _ fun body => foresees_pure _
  case h_9 =>
    split
    · refine foresees_flagChange [.plain '(', .plain '?'] ?_ ?_
      · intro letters hletters
        dsimp only
        split
        · exact foresees_refuseAt _ _ _
        · refine .given fun hlast => .modify_bind (fun r hr => ⟨hr.forget.place, ?_⟩) ?_
          · intro f hf
            rcases List.mem_append.mp hf with hf | hf
            · exact hr.flags f hf
            · exact ⟨letters, hletters, hf, hlast⟩
          · exact .get_bind fun _ _ => foresees_pure _
      · intro on off
        exact ih.plainGroup _ _
    · exact foresees_fail _ _

end

/-- Nested patterns are refused for reasons that stand in them. -/
theorem nestedForesees (all : List Token) (fuel : Nat) : NestedForesees all fuel := by
  induction fuel with
  | zero =>
    constructor
    all_goals
      intros
      exact foresees_pure _
  | succ fuel ih =>
    exact {
      alternatives := fun leading flags => foresees_alternatives ih flags leading
      furtherAlternatives := fun flags => foresees_furtherAlternatives ih flags
      sequence := fun leading flags read => foresees_sequence ih flags leading read
      group := fun leading flags start => foresees_group ih flags start leading
      capture := fun flags start name => foresees_capture ih flags start name
      plainGroup := by
        intro flags start
        rw [plainGroup]
        exact ih.closed _ _ fun body => foresees_pure _
      look := by
        intro flags start negated
        rw [look]
        exact ih.closed _ _ fun body => foresees_pure _
      lookBehind := fun flags start negated => foresees_lookBehind ih flags start negated
      conditional := fun flags start => foresees_conditional ih flags start }

/-- A whole pattern; what its flags exclude is found at its end. -/
theorem foresees_whole : Foresees all [] whole := by
  refine .get_bind fun r _ => ?_
  dsimp only
  split
  · exact foresees_refuseAt _ _ _
  refine ((nestedForesees all _).alternatives _ _).bind fun item => .get_bind fun s hs => ?_
  split
  · next hclash =>
    refine Foresees.bind_fails ?_ (fails_throw _) _
    exact foresees_throw (.flagClash (hs.flags _ hclash.1) (hs.flags _ hclash.2))
  split
  · exact foresees_refuse _ _ _
  split
  · exact foresees_refuseAt _ _ _
  split
  · exact (foresees_throw (.malformed _ _)).bind_fails (fails_throw _) _
  · exact foresees_pure _

end Parse

/-- **Why a pattern is refused** stands in it: what is not a fault of its grammar is a number in it
that is too large, or flags in it that exclude each other. -/
theorem evident_of_parse_error {pattern : Text} {e : Error} (h : parse pattern = .error e) :
    Evident (tokens pattern) e := by
  unfold parse at h
  cases hwhole : Parse.whole.run { rest := tokens pattern } with
  | ok x =>
    rw [hwhole] at h
    cases h
  | error e' =>
    rw [hwhole] at h
    cases h
    have hreads : Parse.Reads (tokens pattern) [] { rest := tokens pattern } := by
      refine ⟨List.suffix_refl _, ?_⟩
      intro f hf
      cases hf
    exact Parse.foresees_whole.error hreads hwhole

end LineSift.Regex
