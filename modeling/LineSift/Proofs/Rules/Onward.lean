import LineSift.Proofs.Rules.Kept

/-!
# Headers with further lines behind them

What is read from a text is read as well when a line feed and a further text follow (`Onward`).
Names and strings end on their line, a string over several lines ends at its own quote, and where a
reader stops because nothing fits, that is decided by a code point of the text itself.  Comments end
at the line feed, so nothing of the further text is passed over that would not be passed over
without the text before it (`skip_further`).  So the items of a text are followed by those of the
lines below (`Reads.append`).
-/

namespace LineSift.Header

open Text (onto)

/-- Whether what is read from a text is read as well when further lines follow. -/
def Onward {α : Type} (read : Read α) : Prop :=
  ∀ {t a rest}, read t = some (a, rest) → ∀ u,
    read (t ++ .char '\n' :: u) = some (a, rest ++ .char '\n' :: u)

/-! ## Gaps, names and symbols -/

theorem skipFrom_append (inComment : Bool) (t u : Text) :
    skipFrom inComment (t ++ .char '\n' :: u) =
      if skipFrom inComment t = [] then skip u else skipFrom inComment t ++ .char '\n' :: u := by
  fun_induction skipFrom inComment t with
  | case1 inComment => cases inComment <;> rfl
  | case2 c t ih => exact ih
  | case3 c t hc ih =>
    rw [List.cons_append, skipFrom, if_pos hc]
    exact ih
  | case4 t hc ih =>
    rw [List.cons_append, skipFrom, if_neg hc, if_pos rfl]
    exact ih
  | case5 c t hc hcomment =>
    rw [List.cons_append, skipFrom, if_neg hc, if_neg hcomment, if_neg (List.cons_ne_nil c t)]

theorem skip_onward {t : Text} (h : skip t ≠ []) (u : Text) :
    skip (t ++ .char '\n' :: u) = skip t ++ .char '\n' :: u := by
  have hfrom := skipFrom_append false t u
  rwa [← skip, ← skip, if_neg h] at hfrom

/-- Where nothing but a gap is left, the next token is that of the further text. -/
theorem skip_further {t : Text} (h : skip t = []) (u : Text) :
    skip (t ++ .char '\n' :: u) = skip u := by
  have hfrom := skipFrom_append false t u
  rwa [← skip, ← skip, h, if_pos rfl] at hfrom

theorem name_onward : Onward name := by
  intro t n rest h u
  obtain ⟨hn, hskip, hhead⟩ := name_eq_some_iff.mp h
  have hne : skip t ≠ [] := hskip ▸ List.append_ne_nil_of_left_ne_nil hn.1 rest
  refine name_eq_some_iff.mpr ⟨hn, ?_, fun d hd => ?_⟩
  · rw [skip_onward hne, hskip, List.append_assoc]
  · cases rest with
    | nil =>
      obtain rfl : .char '\n' = d := by simpa using hd
      decide
    | cons e rest => exact hhead d hd

theorem symbol_onward (c : CodePoint) : Onward (symbol c) := by
  intro t a rest h u
  have hskip := skip_of_symbol h
  have hne : skip t ≠ [] := hskip ▸ List.cons_ne_nil c rest
  simp only [symbol, skip_onward hne, hskip, List.cons_append, if_pos]

theorem keyword_onward : Onward keyword := by
  intro t a rest h u
  simp only [keyword] at h
  split at h
  · next f i e l d rest' hskip =>
    split at h
    · next hword =>
      obtain rfl : rest' = rest := by simpa using h
      have hne : skip t ≠ [] := hskip ▸ List.cons_ne_nil f _
      have hend : (rest' ++ .char '\n' :: u).head?.any isKeywordPart =
          rest'.head?.any isKeywordPart := by
        cases rest' with
        | nil => rfl
        | cons c rest' => rfl
      simp only [keyword, skip_onward hne, hskip, List.cons_append, hend, hword, if_true]
    · cases h
  · cases h

/-! ## Strings -/

/-- A result in front of a further text. -/
def before (u : Text) (r : Option (Text × Text)) : Option (Text × Text) :=
  r.map fun (a, rest) => (a, rest ++ .char '\n' :: u)

theorem onto_before (c : CodePoint) (u : Text) (r : Option (Text × Text)) :
    onto c (before u r) = before u (onto c r) := by
  cases r <;> rfl

theorem doubleRest_lineEnd {c : CodePoint} (hc : c = .char '\n' ∨ c = .char '\r') (t : Text) :
    doubleRest (c :: t) = none := by
  have hne : c ≠ .char '"' ∧ c ≠ .char '\\' := by rcases hc with rfl | rfl <;> decide
  cases t with
  | nil => rw [doubleRest, if_neg hne.1]
  | cons d t => rw [doubleRest, if_neg hne.1, if_neg hne.2, if_pos hc]

/-- A string in double quotes ends on its line or not at all. -/
theorem doubleRest_append (t u : Text) :
    doubleRest (t ++ .char '\n' :: u) = before u (doubleRest t) := by
  fun_induction doubleRest t with
  | case1 => exact doubleRest_lineEnd (.inl rfl) u
  | case2 => exact doubleRest_quote _
  | case3 c hc =>
    have hnone : doubleRest (.char '\n' :: u) = none := doubleRest_lineEnd (.inl rfl) u
    rw [List.singleton_append, doubleRest, if_neg hc, if_pos rfl, hnone]
    split
    · rfl
    · split <;> rfl
  | case4 d t => exact doubleRest_quote _
  | case5 t hq => rfl
  | case6 d t hd _ ih =>
    rw [List.cons_append, List.cons_append, doubleRest_pair hd, ih, onto_before, onto_before]
  | case7 c d t _ _ hc => exact doubleRest_lineEnd hc _
  | case8 c d t hq hb hc ih =>
    obtain ⟨hn, hr⟩ := not_or.mp hc
    rw [List.cons_append, doubleRest_plain hq hb hn hr, ih, onto_before]

theorem singleRest_lineEnd {c : CodePoint} (hc : c = .char '\n' ∨ c = .char '\r') (t : Text) :
    singleRest (c :: t) = none := by
  have hne : c ≠ .char '\'' ∧ c ≠ .char '\\' := by rcases hc with rfl | rfl <;> decide
  cases t with
  | nil => rw [singleRest, if_neg hne.1]
  | cons d t => rw [singleRest, if_neg hne.1, if_neg fun h => hne.2 h.1, if_pos hc]

/-- So does a string in single quotes: whether a quote behind a backslash ends it depends on nothing
but the rest of the line. -/
theorem singleRest_append (t u : Text) :
    singleRest (t ++ .char '\n' :: u) = before u (singleRest t) := by
  fun_induction singleRest t with
  | case1 => exact singleRest_lineEnd (.inl rfl) u
  | case2 => exact singleRest_quote _
  | case3 c hc =>
    have hnone : singleRest (.char '\n' :: u) = none := singleRest_lineEnd (.inl rfl) u
    rw [List.singleton_append, singleRest, if_neg hc, if_neg fun h => absurd h.2 (by decide), hnone]
    split <;> rfl
  | case4 d t => exact singleRest_quote _
  | case5 c d t hq hpair r hr ih =>
    rw [List.cons_append, List.cons_append, singleRest, if_neg hq, if_pos hpair, ih, onto_before,
      onto_before, hr]
    rfl
  | case6 c d t hq hpair hnone ih =>
    rw [List.cons_append, List.cons_append, singleRest, if_neg hq, if_pos hpair, ih, onto_before,
      onto_before, hnone]
    rfl
  | case7 c d t _ _ hc => exact singleRest_lineEnd hc _
  | case8 c d t hq hpair hc ih =>
    obtain ⟨hn, hr⟩ := not_or.mp hc
    have hplain := singleRest_plain hq (fun hb hd => hpair ⟨hb, hd⟩) hn hr (t ++ .char '\n' :: u)
    rw [List.cons_append, List.cons_append, hplain, ← List.cons_append, ih, onto_before]

theorem rawRest_onward : Onward rawRest := by
  intro t a rest h u
  induction t generalizing a with
  | nil => cases h
  | cons c t ih =>
    rw [rawRest] at h
    rw [List.cons_append, rawRest]
    split at h
    · next hc =>
      obtain ⟨rfl, rfl⟩ := Prod.mk.inj (Option.some.inj h)
      rw [if_pos hc]
    · next hc =>
      obtain ⟨a', rfl, h'⟩ := onto_eq_some.mp h
      rw [if_neg hc, ih h']
      rfl

theorem string_onward : Onward string := by
  intro t a rest h u
  simp only [string] at h ⊢
  cases hskip : skip t with
  | nil =>
    rw [hskip] at h
    cases h
  | cons c v =>
    rw [hskip] at h
    have hne : skip t ≠ [] := hskip ▸ List.cons_ne_nil c v
    simp only [skip_onward hne, hskip, List.cons_append]
    dsimp only at h
    split
    · next hc =>
      rw [if_pos hc] at h
      rw [doubleRest_append, onto_before, h]
      rfl
    · next hq =>
      rw [if_neg hq] at h
      split
      · next hc =>
        rw [if_pos hc] at h
        rw [singleRest_append, onto_before, h]
        rfl
      · next hs =>
        rw [if_neg hs] at h
        split at h
        · next hc =>
          obtain ⟨a', rfl, h'⟩ := onto_eq_some.mp h
          rw [if_pos hc, rawRest_onward h']
          rfl
        · cases h

/-! ## Lists and values -/

theorem symbol_eq_none {c d : CodePoint} {t rest : Text} (h : symbol c t = some ((), rest))
    (hd : c ≠ d) : symbol d t = none := by
  simp only [symbol, skip_of_symbol h, if_neg hd]

/-- The strings of a list that is read are the same when a further text follows; the number of
further strings that may be read does not matter. -/
theorem furtherStrings_append {n m : Nat} (hm : n ≤ m) {t rest : Text}
    (h : symbol ']' (furtherStrings n t) = some ((), rest)) (u : Text) :
    furtherStrings m (t ++ .char '\n' :: u) = furtherStrings n t ++ .char '\n' :: u := by
  have hstop : ∀ {t : Text} (m : Nat), symbol ']' t = some ((), rest) →
      furtherStrings m (t ++ .char '\n' :: u) = t ++ .char '\n' :: u := by
    intro t m ht
    cases m with
    | zero => rfl
    | succ m =>
      rw [furtherStrings, symbol_eq_none (symbol_onward _ ht u) (by decide), Option.bind_none]
  fun_induction furtherStrings n t generalizing m with
  | case1 t => exact hstop m h
  | case2 n t s rest' hread ih =>
    obtain ⟨m, rfl⟩ : ∃ k, m = k + 1 := ⟨m - 1, by omega⟩
    obtain ⟨⟨⟨⟩, v⟩, hcomma, hstring⟩ := Option.bind_eq_some_iff.mp hread
    rw [furtherStrings, symbol_onward _ hcomma u, Option.bind_some]
    simp only [string_onward hstring u]
    exact ih (Nat.le_of_succ_le_succ hm) h
  | case3 n t => exact hstop m h

/-- Where a bracket stands next, no string begins. -/
theorem string_of_bracket {t rest : Text} {c : CodePoint} (h : skip t = c :: rest)
    (hc : c = .char '[' ∨ c = .char ']') : string t = none := by
  simp only [string, h]
  rcases hc with rfl | rfl <;> rfl

theorem behindStrings_append {body rest : Text}
    (h : symbol ']' (behindStrings body) = some ((), rest)) (u : Text) :
    behindStrings (body ++ .char '\n' :: u) = behindStrings body ++ .char '\n' :: u := by
  unfold behindStrings at h ⊢
  cases hs : string body with
  | some r =>
    obtain ⟨s, v⟩ := r
    simp only [hs] at h
    simp only [string_onward hs u]
    exact furtherStrings_append (by simp) h u
  | none =>
    simp only [hs] at h
    have hnone : string (body ++ .char '\n' :: u) = none :=
      string_of_bracket (skip_of_symbol (symbol_onward _ h u)) (.inr rfl)
    simp only [hnone]

theorem list_onward : Onward list := by
  intro t v rest h u
  obtain ⟨body, hskip, hlist⟩ := exists_skip_of_list h
  have hne : skip t ≠ [] := hskip ▸ List.cons_ne_nil _ body
  rw [list_cons] at hlist
  obtain ⟨⟨⟨⟩, rest'⟩, hclose, hv⟩ := Option.map_eq_some_iff.mp hlist
  obtain ⟨rfl, rfl⟩ := Prod.mk.inj hv
  have htake : (CodePoint.char '[' :: body ++ .char '\n' :: u).take
      ((CodePoint.char '[' :: body ++ .char '\n' :: u).length -
        (rest' ++ CodePoint.char '\n' :: u).length) =
      (CodePoint.char '[' :: body).take ((CodePoint.char '[' :: body).length - rest'.length) := by
    rw [List.length_append, List.length_append, Nat.add_sub_add_right,
      List.take_append_of_le_length (Nat.sub_le _ _)]
  rw [← list_skip, skip_onward hne, hskip, List.cons_append, list_cons,
    behindStrings_append hclose u, symbol_onward _ hclose u]
  exact congrArg some (Prod.ext htake rfl)

theorem value_onward : Onward value := by
  intro t v rest h u
  rcases value_eq_some h with hlist | hstring
  · simp only [value, list_onward hlist u]
  · have hstring' := string_onward hstring u
    have hlist : list (t ++ .char '\n' :: u) = none := by
      rw [Option.eq_none_iff_forall_ne_some]
      intro r hr
      obtain ⟨body, hskip, -⟩ := exists_skip_of_list hr
      rw [string_of_bracket hskip (.inl rfl)] at hstring'
      cases hstring'
    simp only [value, hlist, hstring']

/-! ## Options and fields -/

theorem option_onward : Onward option := by
  intro t a rest h u
  obtain ⟨t₁, t₂, h₁, h₂, h₃⟩ := option_eq_some h
  simp [option, name_onward h₁ u, symbol_onward _ h₂ u, value_onward h₃ u]

/-- The options of a field that ends are the same when a further text follows; the number of options
that may be read does not matter. -/
theorem options_append {n m : Nat} (hm : n ≤ m) {t rest : Text}
    (h : symbol '\x7d' (options n t).2 = some ((), rest)) (u : Text) :
    options m (t ++ .char '\n' :: u) = ((options n t).1, (options n t).2 ++ .char '\n' :: u) := by
  have hstop : ∀ {t : Text} (m : Nat), symbol '\x7d' t = some ((), rest) →
      options m (t ++ .char '\n' :: u) = ([], t ++ .char '\n' :: u) := by
    intro t m ht
    have hname : name (t ++ .char '\n' :: u) = none := by
      simp only [name, skip_of_symbol (symbol_onward _ ht u)]
      rfl
    cases m with
    | zero => rfl
    | succ m => simp [options, option, hname]
  fun_induction options n t generalizing m with
  | case1 t => exact hstop m h
  | case2 n t a rest' hread as rest'' has ih =>
    obtain ⟨m, rfl⟩ : ∃ k, m = k + 1 := ⟨m - 1, by omega⟩
    rw [has] at ih
    rw [options, option_onward hread u]
    simp only [ih (Nat.le_of_succ_le_succ hm) h]
  | case3 n t => exact hstop m h

theorem field_onward : Onward field := by
  rintro t ⟨n, attributes⟩ rest h u
  obtain ⟨t₁, t₂, t₃, h₁, h₂, h₃, rfl, h₄⟩ := field_eq_some h
  have hle : t₃.length ≤ (t₃ ++ CodePoint.char '\n' :: u).length := by simp
  have hoptions := options_append hle h₄ u
  simp only [field, keyword_onward h₁ u, name_onward h₂ u, symbol_onward _ h₃ u, hoptions,
    symbol_onward _ h₄ u, Option.bind_eq_bind, Option.bind_some]
  rfl

/-- An option stays one: where an equals sign follows a name, no further text makes a field
of it. -/
theorem item_onward : Onward item := by
  intro t i rest h u
  rcases item_eq_some h with ⟨n, attributes, rfl, hfield⟩ | ⟨k, v, rfl, -, hoption⟩
  · simp only [item, field_onward hfield u]
  · have hoption' := option_onward hoption u
    obtain ⟨t₁, t₂, h₁, h₂, -⟩ := option_eq_some hoption'
    simp only [item, field_of_equals h₁ h₂, hoption', Option.map_some]

/-! ## Items -/

theorem item_skip (t : Text) : item (skip t) = item t := by
  have hname : name (skip t) = name t := by rw [name, name, skip_skip]
  have hkeyword : keyword (skip t) = keyword t := by rw [keyword, keyword, skip_skip]
  simp only [item, field, option, hname, hkeyword]

theorem name_shorter {t n rest : Text} (h : name t = some (n, rest)) : rest.length < t.length := by
  obtain ⟨⟨hne, -⟩, hskip, -⟩ := name_eq_some_iff.mp h
  have hle := (skip_suffix t).length_le
  have hpos := List.length_pos_iff.mpr hne
  rw [hskip, List.length_append] at hle
  omega

theorem keyword_shorter {t rest : Text} (h : keyword t = some ((), rest)) :
    rest.length < t.length := by
  obtain ⟨w, hw, hskip, -⟩ := keyword_eq_some h
  have hle := (skip_suffix t).length_le
  rw [hskip, List.length_append, hw] at hle
  omega

theorem item_shorter {t rest : Text} {i : Item} (h : item t = some (i, rest)) :
    rest.length < t.length := by
  rcases item_eq_some h with ⟨n, attributes, rfl, hfield⟩ | ⟨k, v, rfl, -, hoption⟩
  · obtain ⟨t₁, t₂, t₃, h₁, h₂, h₃, -, h₄⟩ := field_eq_some hfield
    have hrest : rest <:+ t₁ := (symbol_suffix h₄).trans ((options_readAt t₃.length t₃).1.trans
      ((symbol_suffix h₃).trans (name_suffix h₂)))
    exact Nat.lt_of_le_of_lt hrest.length_le (keyword_shorter h₁)
  · obtain ⟨t₁, t₂, h₁, h₂, h₃⟩ := option_eq_some hoption
    exact Nat.lt_of_le_of_lt ((value_suffix h₃).trans (symbol_suffix h₂)).length_le
      (name_shorter h₁)

/-- The items that a text begins with, and what is left behind them. -/
inductive Reads : Text → List Item → Text → Prop
  | stop {t : Text} : item t = none → Reads t [] t
  | more {t rest v : Text} {i : Item} {is : List Item} :
    item t = some (i, rest) → Reads rest is v → Reads t (i :: is) v

/-- Reading as many items as the text has code points takes all that the text begins with. -/
theorem items_eq_iff {n : Nat} {t v : Text} {is : List Item} (hn : t.length ≤ n) :
    items n t = (is, v) ↔ Reads t is v := by
  constructor
  · intro h
    fun_induction items n t generalizing is v with
    | case1 t =>
      obtain rfl := List.eq_nil_of_length_eq_zero (Nat.le_zero.mp hn)
      cases h
      exact .stop rfl
    | case2 n t i rest hread is' v' hrest ih =>
      cases h
      have hlt := item_shorter hread
      exact .more hread (ih (by omega) hrest)
    | case3 n t hread =>
      cases h
      exact .stop hread
  · intro h
    induction h generalizing n with
    | stop hread =>
      cases n with
      | zero => rfl
      | succ n => rw [items, hread]
    | more hread _ ih =>
      have hlt := item_shorter hread
      obtain ⟨n, rfl⟩ : ∃ m, n = m + 1 := ⟨n - 1, by omega⟩
      rw [items, hread]
      simp only [ih (by omega : _ ≤ n)]

theorem exists_reads (t : Text) : ∃ is v, Reads t is v :=
  ⟨_, _, (items_eq_iff (Nat.le_refl _)).mp rfl⟩

theorem Reads.suffix {t v : Text} {is : List Item} (h : Reads t is v) : v <:+ t := by
  induction h with
  | stop => exact List.suffix_refl _
  | more hread _ ih => exact ih.trans (item_readAt hread).1

/-- Where two texts differ by the gap they begin with, the same items are read. -/
theorem Reads.of_skip {t t' v : Text} {is : List Item} (h : Reads t is v)
    (hskip : skip t' = skip t) :
    ∃ v', Reads t' is v' ∧ skip v' = skip v := by
  have hitem : item t' = item t := by rw [← item_skip, hskip, item_skip]
  cases h with
  | stop hread => exact ⟨t', .stop (hitem.trans hread), hskip⟩
  | more hread hrest => exact ⟨v, .more (hitem.trans hread) hrest, rfl⟩

/-- Behind the last item of a text the items of the lines below are read. -/
theorem Reads.append {t v u w : Text} {is js : List Item} (h : Reads t is v) (hv : skip v = [])
    (h' : Reads u js w) : ∃ w', Reads (t ++ .char '\n' :: u) (is ++ js) w' ∧ skip w' = skip w := by
  induction h with
  | stop => exact h'.of_skip (skip_further hv u)
  | more hread _ ih =>
    obtain ⟨w', hreads, hw'⟩ := ih hv
    exact ⟨w', .more (item_onward hread u) hreads, hw'⟩

end LineSift.Header
