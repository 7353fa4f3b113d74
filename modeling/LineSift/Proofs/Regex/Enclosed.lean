import LineSift.Proofs.Regex.Simple
import LineSift.Proofs.Regex.Through

/-!
# A pattern between quoted texts

A pattern with a single alternative (`isUnbranched`) that stands between two quoted texts and the
anchors is read as these texts with the parts of the pattern between them (`parse_enclosed`).  Two
things can go wrong.  A bar that is not inside of a group takes the quoted texts apart; such a
pattern is not unbranched.  And a number at the end of the pattern can be continued by a digit at
the beginning of the quoted text behind it (`takesDigit`).
-/

namespace LineSift.Regex

open Parse

/-- Whether a pattern is a single alternative: read as a sequence of parts, it comes to its end. -/
def isUnbranched (pattern : Text) : Bool :=
  match sequence (4 * (tokens pattern).length + 3) true [] [] { rest := tokens pattern } with
  | .ok (_, r) => r.rest.isEmpty
  | .error _ => false

/-- Whether a pattern ends with an escape by a number of which a code point would be a digit. -/
def EndsOpenTo (pattern : Text) (d : CodePoint) : Prop :=
  ∃ front c ds, tokens pattern = front ++ .escaped c :: ds.map .plain ∧ takesDigit c ds d = true

/-- Only digits continue a number. -/
theorem not_endsOpenTo (pattern : Text) {d : CodePoint} (h : d.isAsciiDigit = false) :
    ¬ EndsOpenTo pattern d := by
  have hoct : d.isOctDigit = false := by
    simp only [CodePoint.isAsciiDigit, CodePoint.isOctDigit, CodePoint.inRange,
      Bool.and_eq_false_iff, decide_eq_false_iff_not] at h ⊢
    omega
  rintro ⟨front, c, ds, -, htakes⟩
  unfold takesDigit at htakes
  rw [hoct, h] at htakes
  split at htakes
  · simp at htakes
  · split at htakes <;> simp at htakes

namespace Parse

variable {more : List Token} {fuel fuel' : Nat}

/-! ## Up to a pattern -/

/-- What a token begins by itself is read as a part. -/
theorem takes_part {leading : Bool} {read : List Item} {t : Token} {ts : List Token} {item : Item}
    (h : Begins ts t [] item) : Takes (part fuel leading [] read t) [] ([], item :: read) ts := by
  cases h with
  | escape hescape =>
    rw [part_escaped]
    exact hescape.bind_left (takes_pure _ _)
  | any => exact takes_pure _ _
  | set hset => exact Takes.get_bind fun _ _ => hset.bind_left (takes_pure _ _)
  | literal hc =>
    rw [part_literal _ _ _ _ hc]
    exact Takes.get_bind fun _ _ => takes_pure _ _

theorem Begins.not_end {ts used : List Token} {t : Token} {item : Item}
    (h : Begins ts t used item) :
    t ≠ .dangling ∧ ¬ (t = .plain '|' ∨ t = .plain ')') := by
  cases h with
  | escape _ => simp
  | any => decide
  | set _ => decide
  | literal hc =>
    refine ⟨by simp, ?_⟩
    rintro (h | h)
    all_goals
      obtain rfl := Token.plain.inj h
      exact hc (by decide)

/-- A sequence goes on behind such a token. -/
theorem sequence_item {leading : Bool} {read : List Item} {t : Token} {ts : List Token}
    {item x : Item} {r s : Reader} (hbegins : Begins ts t [] item) (hrest : r.rest = t :: ts)
    (h : sequence (fuel + 1) leading [] read r = .ok (x, s)) :
    ∃ pos, sequence fuel leading [] (item :: read) { r with rest := ts, pos } = .ok (x, s) := by
  rcases sequence_ok h with ⟨-, -, hstop⟩ | ⟨t', ts', pos, hcons, -, -, h⟩
  · exact absurd (hstop t (by rw [hrest]; rfl)) hbegins.not_end.2
  · obtain ⟨rfl, rfl⟩ := List.cons.inj (hcons.symm.trans hrest)
    rw [if_neg hbegins.not_end.1] at h
    obtain ⟨pos', hpart⟩ := takes_part hbegins { r with rest := ts', pos } rfl
    rw [bind_eq hpart] at h
    exact ⟨pos', h⟩

theorem begins_quoted (c : CodePoint) (ts : List Token) :
    Begins ts (quotedToken c) [] (.char (.literal .exact c)) := by
  unfold quotedToken
  split
  · next hc => exact .escape (escape_of_special hc _)
  · next hc => exact .literal hc

theorem sequence_quoted (a : Text) {leading : Bool} {read : List Item} {ts : List Token} {x : Item}
    {r s : Reader} (hrest : r.rest = a.map quotedToken ++ ts)
    (h : sequence (fuel + a.length) leading [] read r = .ok (x, s)) :
    ∃ pos, sequence fuel leading [] ((a.map fun c => Item.char (.literal .exact c)).reverse ++ read)
      { r with rest := ts, pos } = .ok (x, s) := by
  induction a generalizing read r with
  | nil => exact ⟨r.pos, by rw [← show r.rest = ts from hrest]; exact h⟩
  | cons c a ih =>
    obtain ⟨pos, h⟩ := sequence_item (begins_quoted c _) hrest h
    obtain ⟨pos', h⟩ := ih rfl h
    refine ⟨pos', ?_⟩
    rw [List.map_cons, List.reverse_cons, List.append_assoc]
    exact h

end Parse

theorem quotedToken_eq_plain {c d : CodePoint} (h : quotedToken c = .plain d) :
    c = d ∧ ¬ isSpecial c = true := by
  unfold quotedToken at h
  split at h
  · cases h
  · next hc => exact ⟨Token.plain.inj h, hc⟩

/-- Special code points do not stand for themselves in a quoted text. -/
theorem special_not_mem_quoted (b : Text) {c : CodePoint} (hc : isSpecial c = true) :
    .plain c ∉ b.map quotedToken ++ [.escaped 'Z'] := by
  intro hmem
  rcases List.mem_append.mp hmem with hmem | hmem
  · obtain ⟨d, -, hd⟩ := List.mem_map.mp hmem
    obtain ⟨rfl, hno⟩ := quotedToken_eq_plain hd
    exact hno hc
  · cases List.mem_singleton.mp hmem

/-- Only numbers go on in a quoted text. -/
theorem sealed_quoted {ts : List Token} {b : Text}
    (hnumber : ∀ front c ds d, ts = front ++ .escaped c :: ds.map .plain → b.head? = some d →
      ¬ takesDigit c ds d = true) : Sealed ts (b.map quotedToken ++ [.escaped 'Z']) where
  marks := by
    have hhead {c : CodePoint} (hc : isSpecial c = true) :
        (b.map quotedToken ++ [Token.escaped 'Z']).head? ≠ some (.plain c) :=
      fun hhead => special_not_mem_quoted b hc (List.mem_of_mem_head? hhead)
    exact ⟨hhead (by decide), hhead (by decide)⟩
  number := by
    intro front c ds d hts hd
    cases b with
    | nil => cases hd
    | cons e b =>
      obtain ⟨rfl, -⟩ := quotedToken_eq_plain (Option.some.inj hd)
      exact hnumber front c ds e hts rfl
  bounds := by
    intro front us vs ws _ hmore
    refine absurd ?_ (special_not_mem_quoted b (c := '\x7d') (by decide))
    rw [hmore]
    simp

/-- A pattern without a bar is a single alternative. -/
theorem isUnbranched_of_no_bar {pattern : Text} {node : Node} (h : parse pattern = .ok node)
    (hbar : .plain '|' ∉ tokens pattern) : isUnbranched pattern = true := by
  obtain ⟨first, others, r, s, hread, hothers, hend, -, -⟩ := parse_ok h
  have hsuffix := (sequence_onward (by dsimp only; omega) hread).suffix
  have hrest : r.rest = [] := by
    rcases furtherAlternatives_ok hothers with ⟨-, rfl, -⟩ | ⟨ts, -, -, -, -, hcons, -⟩
    · exact hend
    · rw [hcons] at hsuffix
      exact absurd (hsuffix.subset List.mem_cons_self) hbar
  unfold isUnbranched
  rw [hread]
  exact List.isEmpty_iff.mpr hrest

theorem tokens_enclosed {pattern : Text} (hdangling : .dangling ∉ tokens pattern) (a b : Text) :
    tokens (.char '\\' :: .char 'A' ::
      (quote a ++ pattern ++ quote b ++ [CodePoint.char '\\', .char 'Z'])) =
      .escaped 'A' :: (a.map quotedToken ++ (tokens pattern ++
        (b.map quotedToken ++ [Token.escaped 'Z']))) := by
  rw [tokens_escaped, List.append_assoc, List.append_assoc,
    tokens_append (dangling_not_mem_quote a), tokens_append hdangling,
    tokens_append (dangling_not_mem_quote b), tokens_quote, tokens_quote]
  rfl

/-- The items of code points that stand for themselves. -/
def literals (t : Text) : List Item := t.map fun c => .char (.literal .exact c)

theorem begins_anchor {c : CodePoint} {anchor : Anchor} (h : anchor? false c = some anchor)
    (ts : List Token) : Begins ts (.escaped c) [] (.anchor anchor) := by
  refine .escape ?_
  unfold escape
  rw [show Flags.asciiOnly [] = false from rfl, h]
  exact takes_pure _ _

/-- The tokens of a pattern between quoted texts are read as these texts with parts between them. -/
theorem sequence_enclosed {ts : List Token} {a b : Text} {fuel fuel' : Nat} {x x' : Item}
    {r r' : Reader} (hdangling : .dangling ∉ ts)
    (hnumber : ∀ front c ds d, ts = front ++ .escaped c :: ds.map .plain → b.head? = some d →
      ¬ takesDigit c ds d = true)
    (hfuel : 4 * ts.length + 1 ≤ fuel) (hfuel' : 4 * (ts.length + b.length) + a.length + 6 ≤ fuel')
    (h : sequence fuel true [] [] { rest := ts } = .ok (x, r)) (hend : r.rest = [])
    (h' : sequence fuel' true [] [] { rest := .escaped 'A' :: (a.map quotedToken ++ (ts ++
      (b.map quotedToken ++ [Token.escaped 'Z']))) } = .ok (x', r')) :
    r'.rest = [] ∧ ∃ items, x' = .ofSequence (.anchor .textStart :: (literals a ++ (items ++
      (literals b ++ [.anchor .textEnd])))) := by
  obtain ⟨fuel', rfl⟩ := exists_succ (Nat.lt_of_lt_of_le (Nat.succ_pos _) hfuel')
  obtain ⟨fuel', rfl⟩ : ∃ k, fuel' = k + a.length := ⟨fuel' - a.length, by omega⟩
  obtain ⟨pos, h'⟩ := sequence_item (begins_anchor rfl _) rfl h'
  obtain ⟨pos', h'⟩ := sequence_quoted a rfl h'
  have halike : Alike (b.map quotedToken ++ [Token.escaped 'Z']) { rest := ts }
      { rest := ts ++ (b.map quotedToken ++ [Token.escaped 'Z']), pos := pos' } :=
    ⟨rfl, rfl, rfl, rfl, rfl⟩
  have h' : sequence fuel' true [] ([] ++ ((literals a).reverse ++ [.anchor .textStart]))
      { rest := ts ++ (b.map quotedToken ++ [Token.escaped 'Z']), pos := pos' } = .ok (x', r') := h'
  obtain ⟨items, fuel'', r'', -, hfuel'', hrest, h'⟩ :=
    sequence_through (sealed_quoted hnumber) hfuel
    (by
      rw [List.length_append, List.length_map, List.length_singleton]
      dsimp only
      omega)
    (by simp) halike hdangling h hend h'
  have hbehind : Completes (items ++ ((literals a).reverse ++ [.anchor .textStart]))
      (b.map quotedToken ++ [Token.escaped 'Z'])
      (.ofSequence (.anchor .textEnd :: ((literals b).reverse ++
        (items ++ ((literals a).reverse ++ [.anchor .textStart])))).reverse) :=
    completes_quoted b (.cons (by simp) [])
      (completes_token (begins_anchor rfl _) (by simp) (completes_nil _))
  rw [List.length_append, List.length_map, List.length_singleton] at hfuel''
  obtain ⟨pos'', hread⟩ := hbehind fuel'' true
    (by rw [List.length_append, List.length_map, List.length_singleton]; omega) r''
    (by rw [hrest, List.append_nil])
  obtain ⟨hx, hr⟩ := Prod.mk.inj (Except.ok.inj (h'.symm.trans hread))
  refine ⟨by rw [hr], items.reverse, ?_⟩
  rw [hx]
  simp

/-- **A pattern between quoted texts.**  It is read as these texts with parts between them. -/
theorem parse_enclosed {pattern a b : Text} {node node' : Node} (h : parse pattern = .ok node)
    (hunbranched : isUnbranched pattern = true)
    (hnumber : ∀ d, b.head? = some d → ¬ EndsOpenTo pattern d)
    (h' : parse (.char '\\' :: .char 'A' :: (quote a ++ pattern ++ quote b ++
      [CodePoint.char '\\', .char 'Z'])) = .ok node') :
    ∃ nodes, node' = Node.ofList (.anchor .textStart ::
      (a.map (fun c => Node.char (.literal .exact c)) ++ (nodes ++
        (b.map (fun c => Node.char (.literal .exact c)) ++ [Node.anchor .textEnd])))) := by
  have hdangling := dangling_not_mem_of_parse h
  obtain ⟨first, -, r, -, hread, -, -, -, -⟩ := parse_ok h
  have hend : r.rest = [] := by
    unfold isUnbranched at hunbranched
    rw [hread] at hunbranched
    exact List.isEmpty_iff.mp hunbranched
  obtain ⟨first', others, r', s', hread', hothers, -, -, rfl⟩ := parse_ok h'
  rw [tokens_enclosed hdangling] at hread' hothers
  obtain ⟨hend', items, rfl⟩ := sequence_enclosed hdangling
    (fun front c ds d he hd htakes => hnumber d hd ⟨front, c, ds, he, htakes⟩) (by omega)
    (by simp only [List.length_cons, List.length_append, List.length_map]; omega) hread hend hread'
  -- nothing is left for further alternatives
  obtain rfl := furtherAlternatives_end hend' hothers
  refine ⟨items.map Item.node, ?_⟩
  have hliterals (t : Text) :
      (literals t).map Item.node = t.map fun c => Node.char (.literal .exact c) := by
    rw [literals, List.map_map]
    rfl
  have hnode : (Item.ofAlternatives (.ofSequence (.anchor .textStart :: (literals a ++ (items ++
      (literals b ++ [Item.anchor .textEnd]))))) []).node = Node.ofList ((Item.anchor .textStart ::
        (literals a ++ (items ++ (literals b ++ [Item.anchor .textEnd])))).map Item.node) := rfl
  rw [hnode]
  simp only [List.map_cons, List.map_append, hliterals]
  rfl

end LineSift.Regex
