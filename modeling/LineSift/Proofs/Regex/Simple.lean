import LineSift.Proofs.Regex.Language
import LineSift.Proofs.Regex.Sequence

/-!
# Simple patterns

A simple pattern is a matcher for one code point, which may be repeated by a plus or a star.  The
matcher is a point, an escape for a class, or a set (`single?`).  Simple patterns and quoted texts
can be put one behind the other: each is read as the part that it is by itself (`completes_simple`,
`completes_quoted`), and matches the texts that it matches by itself (`covers_simple`).
-/

namespace LineSift.Regex

open Parse (Completes Takes)

/-- How often a matcher is repeated. -/
inductive Quantity where
  | once
  | many
  | any
  deriving DecidableEq

namespace Quantity

/-- How a repetition is written. -/
def suffix : Quantity → Text
  | .once => []
  | .many => [.char '+']
  | .any => [.char '*']

/-- How many code points a repetition takes at the least; without a repetition, it is just one. -/
def admits : Quantity → Nat → Prop
  | .once, n => n = 1
  | .many, n => 1 ≤ n
  | .any, _ => True

instance (q : Quantity) (n : Nat) : Decidable (q.admits n) := by
  cases q
  · exact inferInstanceAs (Decidable (n = 1))
  · exact inferInstanceAs (Decidable (1 ≤ n))
  · exact inferInstanceAs (Decidable True)

/-- A matcher with its repetition as a part of a pattern. -/
def item (t : CharTest) : Quantity → Item
  | .once => .char t
  | .many => (Item.char t).repeated .greedy 1 none
  | .any => (Item.char t).repeated .greedy 0 none

end Quantity

/-- The code points that a pattern matches, if it is a matcher for one code point: a point, an
escape for a class, or a set that is read up to its end. -/
def single? : Text → Option CharTest
  | [.char '.'] => some .withinLine
  | [.char '\\', c] => (Parse.category? c).map fun (k, negated) => .ofCategory k false negated
  | .char '[' :: body =>
    match Parse.bracketSet [] { rest := tokens body, pos := 1 } with
    | .ok ({ node := .char t, .. }, { rest := [], .. }) => some t
    | _ => none
  | _ => none

/-- The matcher of a simple pattern and its repetition. -/
def simple? (pattern : Text) : Option (CharTest × Quantity) :=
  match single? pattern with
  | some t => some (t, .once)
  | none =>
    match pattern.getLast? with
    | some (.char '+') => (single? pattern.dropLast).map (·, .many)
    | some (.char '*') => (single? pattern.dropLast).map (·, .any)
    | _ => none

/-- What can be told from the text of a matcher. -/
theorem single?_cases {pattern : Text} {t : CharTest} (h : single? pattern = some t) :
    pattern = [.char '.'] ∧ t = .withinLine ∨
    (∃ c k negated, pattern = [.char '\\', c] ∧ Parse.category? c = some (k, negated) ∧
      t = .ofCategory k false negated) ∨
    ∃ body item r, pattern = .char '[' :: body ∧
      Parse.bracketSet [] { rest := tokens body, pos := 1 } = .ok (item, r) ∧ item.node = .char t ∧
      r.rest = [] := by
  unfold single? at h
  split at h
  · exact Or.inl ⟨rfl, (Option.some.inj h).symm⟩
  · next c =>
    obtain ⟨⟨k, negated⟩, hk, rfl⟩ := Option.map_eq_some_iff.mp h
    exact Or.inr (Or.inl ⟨c, k, negated, rfl, hk, rfl⟩)
  · next body =>
    split at h
    · next hset =>
      obtain rfl := Option.some.inj h
      exact Or.inr (Or.inr ⟨body, _, _, rfl, hset, rfl, rfl⟩)
    · cases h
  · cases h

theorem simple?_eq {pattern : Text} {t : CharTest} {q : Quantity}
    (h : simple? pattern = some (t, q)) :
    ∃ matcher, single? matcher = some t ∧ pattern = matcher ++ q.suffix := by
  unfold simple? at h
  split at h
  · next hs =>
    cases h
    exact ⟨pattern, hs, (List.append_nil _).symm⟩
  · split at h
    · next hlast =>
      obtain ⟨matcher, rfl⟩ := List.getLast?_eq_some_iff.mp hlast
      rw [List.dropLast_concat] at h
      obtain ⟨t', hs, he⟩ := Option.map_eq_some_iff.mp h
      cases he
      exact ⟨matcher, hs, rfl⟩
    · next hlast =>
      obtain ⟨matcher, rfl⟩ := List.getLast?_eq_some_iff.mp hlast
      rw [List.dropLast_concat] at h
      obtain ⟨t', hs, he⟩ := Option.map_eq_some_iff.mp h
      cases he
      exact ⟨matcher, hs, rfl⟩
    · cases h

/-- A matcher with a repetition behind it is not a matcher. -/
theorem single?_concat {matcher : Text} {t : CharTest} (h : single? matcher = some t)
    {c : CodePoint} (hc : c ≠ .char '\\') : single? (matcher ++ [c]) = none := by
  rcases single?_cases h with ⟨rfl, -⟩ | ⟨d, k, negated, rfl, -, -⟩ |
    ⟨body, item, r, rfl, hset, -, hend⟩
  · rfl
  · rfl
  · obtain ⟨hlast, ⟨t', rfl⟩, htakes⟩ := Parse.bracketSet_takes hset hend
    have hdangling : .dangling ∉ tokens body := by
      intro hm
      rw [getLast?_of_dangling hm] at hlast
      cases hlast
    have htokens : tokens (body ++ [c]) = tokens body ++ [Token.plain c] := by
      rw [tokens_append hdangling, tokens_plain hc]
      rfl
    obtain ⟨pos, hread⟩ := htakes [.plain c] (by simp)
      { rest := tokens (body ++ [c]), pos := 1 } htokens
    have hbracket : single? (.char '[' :: (body ++ [c])) =
        match Parse.bracketSet [] { rest := tokens (body ++ [c]), pos := 1 } with
        | .ok ({ node := .char t, .. }, { rest := [], .. }) => some t
        | _ => none := by
      cases body <;> rfl
    rw [hread] at hbracket
    exact hbracket

/-- The simple patterns are the matchers, with or without a repetition. -/
theorem simple?_iff (pattern : Text) (t : CharTest) (q : Quantity) :
    simple? pattern = some (t, q) ↔
      ∃ matcher, single? matcher = some t ∧ pattern = matcher ++ q.suffix := by
  refine ⟨simple?_eq, ?_⟩
  rintro ⟨matcher, hs, rfl⟩
  cases q with
  | once =>
    rw [Quantity.suffix, List.append_nil, simple?, hs]
  | many =>
    rw [Quantity.suffix, simple?, single?_concat hs (by decide)]
    simp [hs]
  | any =>
    rw [Quantity.suffix, simple?, single?_concat hs (by decide)]
    simp [hs]

/-! ## Reading -/

/-- The anchors and other escapes that a code point that is quoted could be taken for: there are
none. -/
theorem escape_of_special {c : CodePoint} (h : isSpecial c = true) (ts : List Token) :
    Takes (Parse.escape [] c) [] (.char (.literal .exact c)) ts := by
  have hall : ("()[]\x7b\x7d?*+-|^$\\.&~# \t\n\r\x0b\x0c".toList.all fun d =>
      decide (Parse.anchor? false (.char d) = none ∧ Parse.category? (.char d) = none ∧
        (Parse.letterEscape? (.char d) = none ∨ Parse.letterEscape? (.char d) = some (.char d)) ∧
        (Parse.codeEscape? (.char d)).isNone ∧ (.char d : CodePoint) ≠ .char '0' ∧
        CodePoint.isAsciiDigit (.char d) = false ∧
        CodePoint.isAsciiAlpha (.char d) = false)) = true := by
    decide
  unfold isSpecial at h
  obtain ⟨d, hd, hcd⟩ := List.any_eq_true.mp h
  obtain rfl := eq_of_beq hcd
  obtain ⟨hanchor, hcategory, hletter, hcode, hzero, hdigit, halpha⟩ :=
    of_decide_eq_true (List.all_eq_true.mp hall d hd)
  have hcode' := Option.isNone_iff_eq_none.mp hcode
  unfold Parse.escape
  have hascii : Flags.asciiOnly [] = false := rfl
  rw [hascii, hanchor]
  dsimp only
  rw [hcategory]
  dsimp only
  rcases hletter with hletter | hletter
  · rw [hletter]
    dsimp only
    rw [hcode']
    dsimp only
    rw [if_neg hzero, hdigit]
    have hitself : Parse.itself (.char d) = pure (.char d) := by
      rw [Parse.itself, halpha, hdigit]
      rfl
    rw [hitself]
    exact Parse.takes_pure _ _
  · rw [hletter]
    exact Parse.takes_pure _ _

theorem escape_of_category {c : CodePoint} {k : Category} {negated : Bool}
    (h : Parse.category? c = some (k, negated)) (ts : List Token) :
    Takes (Parse.escape [] c) [] (.char (.ofCategory k false negated)) ts := by
  have hascii : Flags.asciiOnly [] = false := rfl
  have hanchor : Parse.anchor? false c = none := by
    unfold Parse.category? at h
    split at h <;> first | rfl | cases h
  unfold Parse.escape
  rw [hascii, hanchor]
  dsimp only
  rw [h]
  exact Parse.takes_pure _ _

/-- Tokens behind which a repetition stays as it is. -/
def Follows (ts : List Token) : Prop :=
  ts ≠ [.dangling] ∧ ts.head? ≠ some (.plain '?') ∧ ts.head? ≠ some (.plain '+')

theorem Follows.cons {t : Token} (ht : t ≠ .dangling ∧ t ≠ .plain '?' ∧ t ≠ .plain '+')
    (ts : List Token) : Follows (t :: ts) := by
  refine ⟨fun h => ht.1 (List.cons.inj h).1, ?_, ?_⟩
  · exact fun h => ht.2.1 (Option.some.inj h)
  · exact fun h => ht.2.2 (Option.some.inj h)

theorem quotedToken_ne (c : CodePoint) :
    quotedToken c ≠ .dangling ∧ quotedToken c ≠ .plain '?' ∧ quotedToken c ≠ .plain '+' := by
  unfold quotedToken
  split
  · exact ⟨by simp, by simp, by simp⟩
  · next hc =>
    refine ⟨by simp, ?_, ?_⟩
    all_goals
      intro h
      cases h
      exact hc (by decide)

theorem follows_quoted (t : Text) {ts : List Token} (h : Follows ts) :
    Follows (t.map quotedToken ++ ts) := by
  cases t with
  | nil => exact h
  | cons c t => exact .cons (quotedToken_ne c) _

/-- The code points of a quoted text are read one after the other. -/
theorem completes_quoted (t : Text) {read : List Item} {ts : List Token} {x : Item}
    (hts : Follows ts)
    (h : Completes ((t.map fun c => Item.char (.literal .exact c)).reverse ++ read) ts x) :
    Completes read (t.map quotedToken ++ ts) x := by
  induction t generalizing read with
  | nil => exact h
  | cons c t ih =>
    have hrest : Completes (.char (.literal .exact c) :: read) (t.map quotedToken ++ ts) x := by
      refine ih ?_
      rw [List.map_cons, List.reverse_cons, List.append_assoc] at h
      exact h
    have hbegins : Parse.Begins (t.map quotedToken ++ ts) (quotedToken c) []
        (.char (.literal .exact c)) := by
      unfold quotedToken
      split
      · next hc => exact .escape (escape_of_special hc _)
      · next hc => exact .literal hc
    exact Parse.completes_token hbegins (follows_quoted t hts).1 hrest

/-- A matcher is read as it is by itself; its first token is none that changes a repetition. -/
theorem completes_single {matcher : Text} {t : CharTest} (h : single? matcher = some t) :
    ∃ first used, tokens matcher = first :: used ∧
      (first ≠ .dangling ∧ first ≠ .plain '?' ∧ first ≠ .plain '+') ∧ .dangling ∉ used ∧
      ∀ ts, ts ≠ [.dangling] → Parse.Begins ts first used (.char t) := by
  rcases single?_cases h with ⟨rfl, rfl⟩ | ⟨c, k, negated, rfl, hk, rfl⟩ |
    ⟨body, item, r, rfl, hset, hnode, hend⟩
  · exact ⟨.plain '.', [], rfl, by decide, by simp, fun ts _ => .any⟩
  · exact ⟨.escaped c, [], rfl, ⟨by simp, by simp, by simp⟩, by simp,
      fun ts _ => .escape (escape_of_category hk ts)⟩
  · obtain ⟨hlast, ⟨t', rfl⟩, htakes⟩ := Parse.bracketSet_takes hset hend
    obtain rfl : t' = t := Node.char.inj hnode
    refine ⟨.plain '[', tokens body, tokens_plain (by decide) body, by decide, ?_,
      fun ts hts => .set (htakes ts hts)⟩
    intro hm
    rw [getLast?_of_dangling hm] at hlast
    cases hlast

/-- A simple pattern is read as it is by itself in front of what does not change a repetition. -/
theorem completes_simple {pattern : Text} {t : CharTest} {q : Quantity}
    (h : simple? pattern = some (t, q)) :
    .dangling ∉ tokens pattern ∧ (∀ ts, Follows (tokens pattern ++ ts)) ∧
      ∀ read ts x, Follows ts → Completes (q.item t :: read) ts x →
        Completes read (tokens pattern ++ ts) x := by
  obtain ⟨matcher, hs, rfl⟩ := simple?_eq h
  obtain ⟨first, used, htokens, hfirst, hused, hbegins⟩ := completes_single hs
  have hdangling : .dangling ∉ tokens matcher := by
    rw [htokens]
    exact fun hm => (List.mem_cons.mp hm).elim (fun e => hfirst.1 e.symm) hused
  have hall : tokens (matcher ++ q.suffix) = first :: (used ++ tokens q.suffix) := by
    rw [tokens_append hdangling, htokens]
    rfl
  have hsuffix : .dangling ∉ tokens q.suffix := by
    cases q <;> decide
  refine ⟨?_, fun ts => ?_, fun read ts x hts hx => ?_⟩
  · rw [tokens_append hdangling]
    exact fun hm => (List.mem_append.mp hm).elim hdangling hsuffix
  · rw [hall]
    exact .cons hfirst _
  · rw [hall, List.cons_append, List.append_assoc]
    -- the matcher first, and behind it the repetition if there is one
    have hstep {rest : List Token} (hrest : rest ≠ [.dangling])
        (h : Completes (.char t :: read) rest x) : Completes read (first :: (used ++ rest)) x := by
      refine Parse.completes_item (hbegins rest hrest) ?_ h
      intro he
      cases used with
      | nil => exact hrest he
      | cons u us => exact hused (by rw [(List.cons.inj he).1]; exact List.mem_cons_self)
    obtain ⟨hne, hlazy, hpossessive⟩ := hts
    cases q with
    | once => exact hstep hne hx
    | many =>
      exact hstep (by simp [Quantity.suffix, tokens])
        (Parse.completes_repeated (Or.inr ⟨rfl, rfl⟩) rfl hne hlazy hpossessive hx)
    | any =>
      exact hstep (by simp [Quantity.suffix, tokens])
        (Parse.completes_repeated (Or.inl ⟨rfl, rfl⟩) rfl hne hlazy hpossessive hx)

/-! ## Matching -/

/-- A simple pattern matches as many code points as its repetition says, each of which its matcher
admits. -/
theorem covers_simple {line : Text} (t : CharTest) (q : Quantity) :
    Covers line (q.item t).node fun piece =>
      q.admits piece.length ∧ ∀ c ∈ piece, t.test c = true := by
  cases q with
  | once =>
    have hlang : (fun piece : Text => Quantity.once.admits piece.length ∧
        ∀ c ∈ piece, t.test c = true) = fun piece => ∃ c, piece = [c] ∧ t.test c = true := by
      funext piece
      refine propext ⟨?_, ?_⟩
      · rintro ⟨hlen, hall⟩
        obtain ⟨c, rfl⟩ := List.length_eq_one_iff.mp hlen
        exact ⟨c, rfl, hall c (List.mem_singleton.mpr rfl)⟩
      · rintro ⟨c, rfl, hc⟩
        exact ⟨rfl, fun d hd => List.mem_singleton.mp hd ▸ hc⟩
    rw [hlang]
    exact covers_char t
  | many => exact covers_greedy 1 t
  | any =>
    have hlang : (fun piece : Text => Quantity.any.admits piece.length ∧
        ∀ c ∈ piece, t.test c = true) =
        fun piece => 0 ≤ piece.length ∧ ∀ c ∈ piece, t.test c = true := by
      funext piece
      simp [Quantity.admits]
    rw [hlang]
    exact covers_greedy 0 t

end LineSift.Regex
