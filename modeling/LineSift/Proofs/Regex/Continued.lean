import LineSift.Proofs.Regex.Easier
import LineSift.Proofs.Regex.Enclosed

/-!
# A pattern that goes on behind another one

Where a pattern is written behind another one, the second reader comes through the first pattern as
the first reader does, up to its last alternative, and goes on there (`parse_continued`).  Four
things can go wrong at the seam (`Continues`): the tail can have an alternative of its own, it can
repeat what stands before it, it can add digits to a number, and it can close a brace that had no
meaning before.
-/

namespace LineSift.Regex

open Parse

/-- How many alternatives a pattern has that are not inside of a group. -/
def branches (pattern : Text) : Nat :=
  let read : Parse (List Item) := do
    let _ ← sequence (4 * (tokens pattern).length + 3) true [] []
    let r ← get
    furtherAlternatives (4 * (tokens pattern).length + 3) r.flags
  match read { rest := tokens pattern } with
  | .ok (others, _) => others.length + 1
  | .error _ => 0

/-- Whether a pattern ends with a brace and numbers that are bounds with what stands behind, up to
the brace that closes them there. -/
def EndsInBounds (pattern rest : Text) : Prop :=
  ∃ front us vs ws, tokens pattern = front ++ Token.plain '\x7b' :: us ∧
    tokens rest = vs ++ Token.plain '\x7d' :: ws ∧ IsBounds (us ++ vs)

/-- A pattern means what it does by itself with a text behind it. -/
structure Continues (pattern rest : Text) : Prop where
  /-- There are no alternatives in the text behind. -/
  branches : Regex.branches (pattern ++ rest) ≤ Regex.branches pattern
  /-- The text behind does not begin with a repetition. -/
  repetition : ¬ BeginsRepetition (tokens rest)
  /-- The text behind does not begin with a digit of a number at the end. -/
  number : ∀ d, rest.head? = some d → ¬ EndsOpenTo pattern d
  /-- The text behind does not close bounds that are open at the end. -/
  bounds : ¬ EndsInBounds pattern rest

theorem head?_of_tokens {t : Text} {d : CodePoint} (h : (tokens t).head? = some (.plain d)) :
    t.head? = some d := by
  match t with
  | [] => cases h
  | [c] =>
    rw [tokens] at h
    split at h
    · cases h
    · exact congrArg some (Token.plain.inj (Option.some.inj h))
  | c :: e :: t =>
    rw [tokens] at h
    split at h
    · cases h
    · exact congrArg some (Token.plain.inj (Option.some.inj h))

theorem Continues.sealed {pattern rest : Text} (h : Continues pattern rest) :
    Sealed (tokens pattern) (tokens rest) where
  marks := by
    have hhead {c : CodePoint} (hc : c = .char '*' ∨ c = .char '+' ∨ c = .char '?') :
        (tokens rest).head? ≠ some (.plain c) := by
      intro hhead
      obtain ⟨ts, hts⟩ := List.head?_eq_some_iff.mp hhead
      exact h.repetition (hts ▸ .sign hc)
    exact ⟨hhead (by simp), hhead (by simp)⟩
  number := fun front c ds d hts hd htakes =>
    h.number d (head?_of_tokens hd) ⟨front, c, ds, hts, htakes⟩
  bounds := fun front us vs ws hts hmore hbounds =>
    h.bounds ⟨front, us, vs, ws, hts, hmore, hbounds⟩

/-- Unless a special code point comes first, nothing is repeated. -/
theorem not_beginsRepetition {ts : List Token}
    (h : (ts.head?.bind Token.plain?).any isSpecial = false) : ¬ BeginsRepetition ts := by
  intro hrepetition
  have hno {c : CodePoint} (hc : (some c).any isSpecial = false) : ¬ isSpecial c = true :=
    Bool.eq_false_iff.mp hc
  cases hrepetition with
  | sign hc => exact hno h (by rcases hc with rfl | rfl | rfl <;> decide)
  | bounds _ => exact hno h (by decide)
  | comment _ _ => exact hno h (by decide)

theorem not_endsInBounds (pattern : Text) {rest : Text} (h : .plain '\x7d' ∉ tokens rest) :
    ¬ EndsInBounds pattern rest := by
  rintro ⟨front, us, vs, ws, -, hrest, -⟩
  exact h (by rw [hrest]; simp)

namespace Parse

variable {more : List Token} {fuel fuel' : Nat} {r r' s s' : Reader}

/-- A sequence that ends with the pattern goes on in the tokens behind. -/
theorem sequence_continued {read : List Item} {x x' : Item} (hsealed : Sealed r.rest more)
    (hrepetition : ¬ BeginsRepetition more) (hfuel : 4 * r.rest.length + 1 ≤ fuel)
    (hfuel' : 4 * (r.rest.length + more.length) + 1 ≤ fuel') (halike : Alike more r r')
    (hdangling : .dangling ∉ r.rest) (h : sequence fuel false [] read r = .ok (x, s))
    (hend : s.rest = []) (h' : sequence fuel' false [] read r' = .ok (x', s')) :
    x.node.ContinuedBy x'.node := by
  rw [← List.append_nil read] at h'
  obtain ⟨items, fuel'', r'', rfl, hfuel'', hrest, h'⟩ :=
    sequence_through hsealed hfuel hfuel' (by simp) halike hdangling h hend h'
  rw [← hrest] at hfuel'' hrepetition
  rw [List.append_nil, ← List.nil_append items] at h'
  obtain ⟨items', rfl⟩ := sequence_keeps hfuel'' (Or.inr hrepetition) h'
  have hnodes : (Item.ofSequence (items.reverse ++ items')).node =
      .ofList (items.reverse.map Item.node ++ items'.map Item.node) :=
    congrArg Node.ofList List.map_append
  rw [hnodes]
  exact .last _ _

/-- The last of the alternatives goes on, and the others are the same. -/
theorem furtherAlternatives_continued {first : Node} {others others' : List Item}
    (hsealed : Sealed r.rest more) (hrepetition : ¬ BeginsRepetition more)
    (hfuel : 4 * r.rest.length + 1 ≤ fuel) (hfuel' : 4 * (r.rest.length + more.length) + 1 ≤ fuel')
    (halike : Alike more r r') (hdangling : .dangling ∉ r.rest) (hne : r.rest ≠ [])
    (h : furtherAlternatives fuel [] r = .ok (others, s)) (hend : s.rest = [])
    (h' : furtherAlternatives fuel' [] r' = .ok (others', s'))
    (hlen : others'.length ≤ others.length) :
    (Node.anyOf first (others.map Item.node)).ContinuedBy
      (Node.anyOf first (others'.map Item.node)) := by
  induction fuel generalizing fuel' r r' first others others' with
  | zero => omega
  | succ fuel ih =>
    obtain ⟨fuel', rfl⟩ := exists_succ (Nat.lt_of_lt_of_le (Nat.succ_pos _) hfuel')
    have hrest' := halike.rest
    rcases furtherAlternatives_ok h with ⟨-, rfl, -⟩ |
      ⟨ts, pos, item, r₁, others₁, hrest, hitem, hothers, rfl⟩
    · exact absurd hend hne
    rw [hrest, List.cons_append] at hrest'
    rcases furtherAlternatives_ok h' with ⟨-, -, hhead⟩ |
      ⟨ts', pos', item', r₁', others₁', hcons, hitem', hothers', rfl⟩
    · rw [hrest'] at hhead
      exact absurd rfl hhead
    obtain ⟨-, rfl⟩ := List.cons.inj (hcons.symm.trans hrest')
    rw [hrest] at hsealed hfuel hfuel' hdangling
    rw [List.length_cons] at hfuel hfuel'
    have halike₁ := halike.move ts pos pos'
    have hsuffix : ts <:+ .plain '|' :: ts := List.suffix_cons _ _
    have honward : Onward ts r₁.rest := sequence_onward (by dsimp only; omega) hitem
    have hts := honward.length_le
    by_cases hnil : r₁.rest = []
    · have hcontinued : item.node.ContinuedBy item'.node :=
        sequence_continued (hsealed.of_suffix hsuffix) hrepetition (by dsimp only; omega)
          (by dsimp only; omega) halike₁ (fun hm => hdangling (hsuffix.subset hm)) hitem hnil hitem'
      obtain ⟨fuel, rfl⟩ := exists_succ (show 0 < fuel by omega)
      obtain rfl := furtherAlternatives_end hnil hothers
      obtain rfl : others₁' = [] := List.length_eq_zero_iff.mp (by simpa using hlen)
      exact .alt _ hcontinued
    · obtain ⟨rfl, halike₂⟩ :=
        sequence_alike (by dsimp only; omega) (by dsimp only; omega) halike₁ hitem
        hitem' hnil
      have hsuffix₁ := honward.suffix.trans hsuffix
      exact .alt _ (ih (hsealed.of_suffix hsuffix₁) (by omega) (by omega) halike₂
        (fun hm => hdangling (hsuffix₁.subset hm)) hnil hothers hothers' (by simpa using hlen))

theorem branches_eq {pattern : Text} {first : Item} {others : List Item}
    (hfirst : sequence (4 * (tokens pattern).length + 3) true [] [] { rest := tokens pattern } =
      .ok (first, r))
    (hothers : furtherAlternatives (4 * (tokens pattern).length + 3) r.flags r = .ok (others, s)) :
    branches pattern = others.length + 1 := by
  have hget : (get : Parse Reader) r = .ok (r, r) := rfl
  unfold branches
  dsimp only
  rw [bind_eq hfirst, bind_eq hget, hothers]

end Parse

/-- **A pattern that goes on behind another one** is read as that one with further parts behind its
last alternative, if both begin with the anchor for the beginning of the text. -/
theorem parse_continued {body rest : Text} {node node' : Node}
    (h : parse (.char '\\' :: .char 'A' :: body) = .ok node)
    (h' : parse (.char '\\' :: .char 'A' :: body ++ rest) = .ok node')
    (hcontinues : Continues (.char '\\' :: .char 'A' :: body) rest) : node.ContinuedBy node' := by
  have hdangling := dangling_not_mem_of_parse h
  have hsealed := hcontinues.sealed
  have hbranches := hcontinues.branches
  obtain ⟨first, others, r, s, hfirst, hothers, hend, -, rfl⟩ := parse_ok h
  obtain ⟨first', others', r', s', hfirst', hothers', -, -, rfl⟩ := parse_ok h'
  rw [branches_eq hfirst hothers, branches_eq hfirst' hothers'] at hbranches
  rw [tokens_append hdangling] at hfirst' hothers'
  rw [tokens_escaped] at hdangling hsealed hfirst hothers hfirst' hothers'
  rw [List.length_append, List.length_cons] at hfirst' hothers'
  rw [List.length_cons] at hfirst hothers
  generalize tokens body = ts at hdangling hsealed hfirst hothers hfirst' hothers'
  have hsuffix : ts <:+ .escaped 'A' :: ts := List.suffix_cons _ _
  have hdangling : .dangling ∉ ts := fun hm => hdangling (hsuffix.subset hm)
  -- behind the anchor, the sequences are not at the beginning any more
  obtain ⟨pos, hfirst⟩ := sequence_item (begins_anchor rfl _) rfl hfirst
  obtain ⟨pos', hfirst'⟩ := sequence_item (begins_anchor rfl _) rfl hfirst'
  have hfirst := sequence_leading (by dsimp only; omega) (by simp) hfirst
  have hfirst' := sequence_leading (by simp; omega) (by simp) hfirst'
  have halike : Alike (tokens rest) { rest := ts, pos }
      { rest := ts ++ tokens rest, pos := pos' } :=
    ⟨rfl, rfl, rfl, rfl, rfl⟩
  have honward : Onward ts r.rest := sequence_onward (by dsimp only; omega) hfirst
  have hlen := honward.length_le
  by_cases hnil : r.rest = []
  · obtain rfl := furtherAlternatives_end hnil hothers
    obtain rfl : others' = [] := List.length_eq_zero_iff.mp (by simpa using hbranches)
    have hlast : first.node.ContinuedBy first'.node :=
      sequence_continued (hsealed.of_suffix hsuffix) hcontinues.repetition (by dsimp only; omega)
        (by dsimp only; omega) halike hdangling hfirst hnil hfirst'
    exact hlast
  · have hflags := sequence_flags rfl (by dsimp only; omega) hfirst hnil
    obtain ⟨rfl, halike₁⟩ := sequence_alike (by dsimp only; omega)
      (by dsimp only; omega) halike hfirst
      hfirst' hnil
    rw [hflags] at hothers
    rw [halike₁.flags] at hothers'
    have hsuffix₁ := honward.suffix
    exact furtherAlternatives_continued (hsealed.of_suffix (hsuffix₁.trans hsuffix))
      hcontinues.repetition (by omega) (by omega) halike₁
        (fun hm => hdangling (hsuffix₁.subset hm)) hnil
      hothers hend hothers' (by simpa using hbranches)

end LineSift.Regex
