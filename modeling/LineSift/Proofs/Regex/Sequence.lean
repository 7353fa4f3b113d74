import LineSift.Proofs.Regex.Reading
import LineSift.Proofs.Regex.Tokens

/-!
# Reading a sequence of simple parts

A pattern without groups, alternatives and flags is a sequence of parts: tokens that stand for
themselves, escapes, sets, and repetitions of the part before them.  How such a pattern is read is
described from its end: a pattern with one part more in front is read as that part and what the rest
is read as (`completes_item`, `completes_repeated`), and a pattern that is read to its end is
compiled to the sequence of its parts (`parse_of_completes`).
-/

namespace LineSift.Regex.Parse

/-- Behind some parts, which are kept with the last one first, tokens are read to their end as a
sequence. -/
def Completes (read : List Item) (ts : List Token) (x : Item) : Prop :=
  ∀ fuel leading, ts.length < fuel → Takes (sequence fuel leading [] read) ts x []

/-- What a token begins in front of others: a part that takes some tokens more. -/
inductive Begins (ts : List Token) : Token → List Token → Item → Prop
  | escape {c : CodePoint} {used : List Token} {item : Item} :
      Takes (escape [] c) used item ts → Begins ts (.escaped c) used item
  | literal {c : CodePoint} : ¬ isSpecial c = true →
      Begins ts (.plain c) [] (.char (.literal .exact c))
  | any : Begins ts (.plain '.') [] (.char .withinLine)
  | set {used : List Token} {item : Item} :
      Takes (bracketSet []) used item ts → Begins ts (.plain '[') used item

theorem completes_nil (read : List Item) : Completes read [] (.ofSequence read.reverse) := by
  intro fuel leading hfuel
  obtain ⟨fuel, rfl⟩ : ∃ n, fuel = n + 1 := ⟨fuel - 1, by simp at hfuel; omega⟩
  rw [sequence]
  exact (takes_peek []).bind_right (takes_pure _ _)

/-- A part is read in front of the rest of the sequence. -/
theorem completes_item {read : List Item} {t : Token} {used ts : List Token} {item x : Item}
    (hbegins : Begins ts t used item) (hne : used ++ ts ≠ [.dangling])
    (h : Completes (item :: read) ts x) : Completes read (t :: (used ++ ts)) x := by
  intro fuel leading hfuel
  obtain ⟨fuel, rfl⟩ : ∃ n, fuel = n + 1 := ⟨fuel - 1, by simp at hfuel; omega⟩
  have hrest : Takes (sequence fuel leading [] (item :: read)) ts x [] := by
    refine h fuel leading ?_
    simp only [List.length_cons, List.length_append] at hfuel
    omega
  have hplain : t ≠ .plain '|' ∧ t ≠ .plain ')' := by
    constructor
    all_goals
      rintro rfl
      cases hbegins with
      | literal hc => exact hc (by decide)
  have hpeek : Takes peek [] (some t) ((t :: (used ++ ts)) ++ []) := takes_peek _
  have hnext : Takes next [t] (some t) ((used ++ ts) ++ []) :=
    takes_next t (by rwa [List.append_nil])
  rw [sequence]
  refine hpeek.bind_right ?_
  dsimp only
  rw [if_neg (not_or.mpr hplain)]
  refine hnext.bind ?_
  simp only [List.contains_nil, Bool.false_and, Bool.false_eq_true, if_false]
  refine Takes.get_bind fun r _ => ?_
  rw [← List.append_nil ts] at hbegins
  cases hbegins with
  | escape hescape => exact hescape.bind hrest
  | any => exact hrest
  | set hset => exact hset.bind hrest
  | @literal c hc =>
    -- a code point without a meaning of its own is none of those that begin something else
    split
    all_goals
      rename_i heq
      cases heq
    all_goals first
      | exact hrest
      | exact absurd (by decide) hc

theorem completes_token {read : List Item} {t : Token} {ts : List Token} {item x : Item}
    (hbegins : Begins ts t [] item) (hne : ts ≠ [.dangling]) (h : Completes (item :: read) ts x) :
    Completes read (t :: ts) x := by
  have hcons := completes_item hbegins hne h
  exact hcons

/-- A repetition takes the part before it and is not made lazy or possessive by what follows. -/
theorem completes_repeated {read : List Item} {c : CodePoint} {lo : Nat} {ts : List Token}
    {item x : Item} (hc : c = .char '*' ∧ lo = 0 ∨ c = .char '+' ∧ lo = 1)
    (hrole : item.role = .other) (hne : ts ≠ [.dangling]) (hlazy : ts.head? ≠ some (.plain '?'))
    (hpossessive : ts.head? ≠ some (.plain '+'))
    (h : Completes (item.repeated .greedy lo none :: read) ts x) :
    Completes (item :: read) (.plain c :: ts) x := by
  intro fuel leading hfuel
  obtain ⟨fuel, rfl⟩ : ∃ n, fuel = n + 1 := ⟨fuel - 1, by simp at hfuel; omega⟩
  have hrest :
      Takes (sequence fuel leading [] (item.repeated .greedy lo none :: read)) ts x [] := by
    refine h fuel leading ?_
    rw [List.length_cons] at hfuel
    omega
  have hplain : Token.plain c ≠ .plain '|' ∧ Token.plain c ≠ .plain ')' := by
    rcases hc with ⟨rfl, -⟩ | ⟨rfl, -⟩ <;> exact ⟨by decide, by decide⟩
  have hquantify (start : Nat) : Takes (quantify start lo none (item :: read)) []
      (item.repeated .greedy lo none :: read) (ts ++ []) := by
    rw [List.append_nil]
    unfold quantify
    simp only [hrole, reduceCtorEq, if_false]
    refine (takes_accept_other hlazy).bind_right ?_
    simp only [Bool.false_eq_true, if_false]
    exact (takes_accept_other hpossessive).bind_right (takes_pure _ _)
  have hpeek : Takes peek [] (some (.plain c)) ((.plain c :: ts) ++ []) := takes_peek _
  have hnext : Takes next [.plain c] (some (.plain c)) (ts ++ []) :=
    takes_next _ (by rwa [List.append_nil])
  rw [sequence]
  refine hpeek.bind_right ?_
  dsimp only
  rw [if_neg (not_or.mpr hplain)]
  refine hnext.bind ?_
  simp only [List.contains_nil, Bool.false_and, Bool.false_eq_true, if_false]
  refine Takes.get_bind fun r _ => ?_
  rcases hc with ⟨rfl, rfl⟩ | ⟨rfl, rfl⟩
  · exact (hquantify _).bind_right hrest
  · exact (hquantify _).bind_right hrest

/-! ## Whole patterns -/

/-- A pattern that is read to its end as a sequence is compiled to it. -/
theorem parse_of_completes {pattern : Text} {x : Item} (hne : tokens pattern ≠ [.dangling])
    (h : Completes [] (tokens pattern) x) : parse pattern = .ok x.node := by
  have hseq : Takes (sequence (4 * (tokens pattern).length + 3) true [] []) (tokens pattern) x [] :=
    h _ _ (by omega)
  have halt : Takes (alternatives (4 * (tokens pattern).length + 4) true []) (tokens pattern)
      (.ofAlternatives x []) [] := by
    rw [alternatives]
    refine hseq.bind_left (Takes.get_bind fun r _ => ?_)
    rw [furtherAlternatives]
    refine Takes.bind_right ?_ (takes_pure _ [])
    exact (takes_accept_other (by simp)).bind_right (takes_pure [] [])
  obtain ⟨pos, hread⟩ := halt { rest := tokens pattern } (List.append_nil _).symm
  have hwhole : whole.run { rest := tokens pattern } = .ok (x.node, { rest := [], pos }) := by
    unfold whole StateT.run
    have hget : (get : Parse Reader) { rest := tokens pattern } =
        .ok ({ rest := tokens pattern }, { rest := tokens pattern }) := rfl
    rw [bind_eq hget]
    dsimp only
    rw [if_neg hne, bind_eq hread]
    rfl
  rw [parse, hwhole]
  rfl

end LineSift.Regex.Parse
