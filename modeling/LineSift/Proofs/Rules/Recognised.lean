import LineSift.Proofs.Rules.Reading

/-!
# What the readers of a header take

What a reader takes is a gap and a token of the header's grammar: a string (`IsString`), or a list
whose strings are those that the readers of strings took one after the other (`elements`,
`list_eq_some`).  A gap without number signs is white space alone.
-/

namespace LineSift.Header

open Text (onto)

/-! ## Gaps and symbols -/

/-- What is passed over before a token: without comments it is white space. -/
def Passed (g : Text) : Prop := .char '#' ∉ g → ∀ c ∈ g, c.isLayout

theorem exists_skip (t : Text) : ∃ g, Passed g ∧ t = g ++ skip t := by
  have hfrom : ∀ inComment, ∃ g, (inComment = false → Passed g) ∧
      t = g ++ skipFrom inComment t := by
    intro inComment
    fun_induction skipFrom inComment t with
    | case1 => exact ⟨[], fun _ _ => List.forall_mem_nil _, rfl⟩
    | case2 c t ih =>
      obtain ⟨g, -, ht⟩ := ih
      exact ⟨c :: g, fun h => Bool.noConfusion h, congrArg (c :: ·) ht⟩
    | case3 c t hc ih =>
      obtain ⟨g, hg, ht⟩ := ih
      refine ⟨c :: g, fun _ hn => ?_, congrArg (c :: ·) ht⟩
      exact List.forall_mem_cons.mpr ⟨hc, hg rfl (List.not_mem_of_not_mem_cons hn)⟩
    | case4 t _ ih =>
      obtain ⟨g, -, ht⟩ := ih
      exact ⟨.char '#' :: g, fun _ hn => absurd List.mem_cons_self hn, congrArg (_ :: ·) ht⟩
    | case5 c t => exact ⟨[], fun _ _ => List.forall_mem_nil _, rfl⟩
  obtain ⟨g, hg, ht⟩ := hfrom false
  exact ⟨g, hg rfl, ht⟩

theorem symbol_eq_some {c : CodePoint} {t rest : Text} (h : symbol c t = some ((), rest)) :
    ∃ g, Passed g ∧ t = g ++ c :: rest := by
  obtain ⟨g, hg, ht⟩ := exists_skip t
  rw [skip_of_symbol h] at ht
  exact ⟨g, hg, ht⟩

/-! ## Strings -/

/-- A string as it is read.  Between single quotes anything can stand that the rest of the line does
not take for the end. -/
inductive IsString : Text → Prop
  | double {b : Text} : PairedBody (.char '"') b → IsString (.char '"' :: (b ++ [.char '"']))
  | single {b : Text} : IsString (.char '\'' :: (b ++ [.char '\'']))
  | raw {b : Text} : .char '`' ∉ b → IsString (.char '`' :: (b ++ [.char '`']))

theorem onto_eq_some {c : CodePoint} {r : Option (Text × Text)} {a rest : Text} :
    onto c r = some (a, rest) ↔ ∃ a', a = c :: a' ∧ r = some (a', rest) := by
  cases r with
  | none => simp
  | some r =>
    obtain ⟨a', rest'⟩ := r
    simp only [Text.onto_some, Option.some.injEq, Prod.mk.injEq]
    grind

theorem doubleRest_eq_some {t a rest : Text} (h : doubleRest t = some (a, rest)) :
    t = a ++ rest ∧ ∃ b, PairedBody (.char '"') b ∧ a = b ++ [.char '"'] := by
  fun_induction doubleRest t generalizing a rest with
  | case1 => cases h
  | case2 =>
    obtain ⟨rfl, rfl⟩ : [.char '"'] = a ∧ [] = rest := by simpa using h
    exact ⟨rfl, [], .nil, rfl⟩
  | case3 => cases h
  | case4 d t =>
    obtain ⟨rfl, rfl⟩ : [.char '"'] = a ∧ d :: t = rest := by simpa using h
    exact ⟨rfl, [], .nil, rfl⟩
  | case5 => cases h
  | case6 d t _ _ ih =>
    obtain ⟨a₁, rfl, h₁⟩ := onto_eq_some.mp h
    obtain ⟨a₂, rfl, h₂⟩ := onto_eq_some.mp h₁
    obtain ⟨rfl, b, hb, rfl⟩ := ih h₂
    exact ⟨rfl, _, .pair hb, rfl⟩
  | case7 => cases h
  | case8 c d t hq hb _ ih =>
    obtain ⟨a₁, rfl, h₁⟩ := onto_eq_some.mp h
    obtain ⟨ht, b, hbody, rfl⟩ := ih h₁
    exact ⟨congrArg (c :: ·) ht, _, .plain hq hb hbody, rfl⟩

theorem singleRest_eq_some {t a rest : Text} (h : singleRest t = some (a, rest)) :
    t = a ++ rest ∧ ∃ b, a = b ++ [.char '\''] := by
  fun_induction singleRest t generalizing a rest with
  | case1 => cases h
  | case2 =>
    obtain ⟨rfl, rfl⟩ : [.char '\''] = a ∧ [] = rest := by simpa using h
    exact ⟨rfl, [], rfl⟩
  | case3 => cases h
  | case4 d t =>
    obtain ⟨rfl, rfl⟩ : [.char '\''] = a ∧ d :: t = rest := by simpa using h
    exact ⟨rfl, [], rfl⟩
  | case5 c d t _ _ r hr ih =>
    cases h
    obtain ⟨a₁, rfl, h₁⟩ := onto_eq_some.mp hr
    obtain ⟨a₂, rfl, h₂⟩ := onto_eq_some.mp h₁
    obtain ⟨rfl, b, rfl⟩ := ih h₂
    exact ⟨rfl, c :: d :: b, rfl⟩
  | case6 c d t _ hpair _ _ =>
    obtain ⟨rfl, rfl⟩ : [c, d] = a ∧ t = rest := by simpa using h
    exact ⟨rfl, [c], by rw [hpair.2]; rfl⟩
  | case7 => cases h
  | case8 c d t _ _ _ ih =>
    obtain ⟨a₁, rfl, h₁⟩ := onto_eq_some.mp h
    obtain ⟨ht, b, rfl⟩ := ih h₁
    exact ⟨congrArg (c :: ·) ht, c :: b, rfl⟩

theorem rawRest_eq_some {t a rest : Text} (h : rawRest t = some (a, rest)) :
    t = a ++ rest ∧ ∃ b, .char '`' ∉ b ∧ a = b ++ [.char '`'] := by
  induction t generalizing a rest with
  | nil => cases h
  | cons c t ih =>
    rw [rawRest] at h
    split at h
    · next hc =>
      obtain ⟨rfl, rfl⟩ : [c] = a ∧ t = rest := by simpa using h
      exact ⟨rfl, [], by simp, by rw [hc]; rfl⟩
    · next hc =>
      obtain ⟨a₁, rfl, h₁⟩ := onto_eq_some.mp h
      obtain ⟨rfl, b, hb, rfl⟩ := ih h₁
      exact ⟨rfl, c :: b, List.not_mem_cons_of_ne_of_not_mem (Ne.symm hc) hb, rfl⟩

theorem string_eq_some {t s rest : Text} (h : string t = some (s, rest)) :
    IsString s ∧ ∃ g, Passed g ∧ t = g ++ (s ++ rest) := by
  obtain ⟨g, hg, ht⟩ := exists_skip t
  simp only [string] at h
  split at h
  · cases h
  · next c u hskip =>
    rw [hskip] at ht
    split at h
    · next hc =>
      obtain ⟨a, rfl, ha⟩ := onto_eq_some.mp h
      obtain ⟨rfl, b, hb, rfl⟩ := doubleRest_eq_some ha
      exact ⟨hc ▸ .double hb, g, hg, ht⟩
    · split at h
      · next hc =>
        obtain ⟨a, rfl, ha⟩ := onto_eq_some.mp h
        obtain ⟨rfl, b, rfl⟩ := singleRest_eq_some ha
        exact ⟨hc ▸ .single, g, hg, ht⟩
      · split at h
        · next hc =>
          obtain ⟨a, rfl, ha⟩ := onto_eq_some.mp h
          obtain ⟨rfl, b, hb, rfl⟩ := rawRest_eq_some ha
          exact ⟨hc ▸ .raw hb, g, hg, ht⟩
        · cases h

/-! ## Lists -/

/-- The strings of a list from the comma behind one of them on, and what stands behind them; `n`
bounds their number. -/
def furtherElements : Nat → Text → List Text × Text
  | 0, t => ([], t)
  | n + 1, t =>
    match (symbol (.char ',') t).bind fun ((), u) => string u with
    | some (s, rest) => (s :: (furtherElements n rest).1, (furtherElements n rest).2)
    | none => ([], t)

/-- The strings behind the first bracket of a list, and what stands behind them. -/
def bodyElements (body : Text) : List Text × Text :=
  match string body with
  | some (s, rest) =>
    (s :: (furtherElements rest.length rest).1, (furtherElements rest.length rest).2)
  | none => ([], body)

/-- Reads a list of quoted strings.  What is read is each of its strings, as it is written. -/
def elements : Read (List Text) := fun t =>
  (symbol (.char '[') t).bind fun ((), body) =>
    (symbol (.char ']') (bodyElements body).2).map fun ((), rest) => ((bodyElements body).1, rest)

theorem furtherElements_snd (n : Nat) (t : Text) :
    (furtherElements n t).2 = furtherStrings n t := by
  fun_induction furtherStrings n t with
  | case1 => rfl
  | case2 n t s rest h ih =>
    rw [furtherElements, h]
    exact ih
  | case3 n t h => rw [furtherElements, h]

/-- The strings behind a string of a list, each with the comma before it. -/
theorem furtherElements_spec (n : Nat) (t : Text) :
    (∀ s ∈ (furtherElements n t).1, IsString s) ∧ ∃ m, t = m ++ (furtherElements n t).2 ∧
      ∀ g, Passed g → ∀ s, Elements Passed (s :: (furtherElements n t).1) (s ++ (m ++ g)) := by
  fun_induction furtherElements n t with
  | case1 t => exact ⟨List.forall_mem_nil _, [], rfl, fun g hg s => .last hg⟩
  | case2 n t s rest h ih =>
    obtain ⟨⟨⟨⟩, u⟩, hcomma, hstring⟩ := Option.bind_eq_some_iff.mp h
    obtain ⟨g₁, hg₁, rfl⟩ := symbol_eq_some hcomma
    obtain ⟨hs, g₂, hg₂, rfl⟩ := string_eq_some hstring
    obtain ⟨hss, m, hm, hm'⟩ := ih
    refine ⟨List.forall_mem_cons.mpr ⟨hs, hss⟩, g₁ ++ .char ',' :: (g₂ ++ (s ++ m)), ?_,
      fun g hg s' => ?_⟩
    · rw [List.append_assoc, List.cons_append, List.append_assoc, List.append_assoc, ← hm]
    · rw [List.append_assoc, List.cons_append, List.append_assoc, List.append_assoc]
      exact .more hg₁ hg₂ (hm' g hg s)
  | case3 n t => exact ⟨List.forall_mem_nil _, [], rfl, fun g hg s => .last hg⟩

/-- The strings of a list are what stands between its brackets, up to the gap before the
last one. -/
theorem bodyElements_spec (body : Text) :
    (∀ s ∈ (bodyElements body).1, IsString s) ∧ ∃ m, body = m ++ (bodyElements body).2 ∧
      ∀ g, Passed g →
        Bracketed Passed (bodyElements body).1 (.char '[' :: (m ++ (g ++ [.char ']']))) := by
  fun_cases bodyElements body with
  | case1 s rest h =>
    obtain ⟨hs, g₁, hg₁, rfl⟩ := string_eq_some h
    obtain ⟨hss, m, hm, hm'⟩ := furtherElements_spec rest.length rest
    refine ⟨List.forall_mem_cons.mpr ⟨hs, hss⟩, g₁ ++ (s ++ m), ?_, fun g hg => ?_⟩
    · rw [List.append_assoc, List.append_assoc, ← hm]
    · have hlist := Bracketed.elements hg₁ (hm' g hg s)
      simpa only [List.append_assoc] using hlist
  | case2 => exact ⟨List.forall_mem_nil _, [], rfl, fun g hg => .empty hg⟩

theorem bodyElements_snd (body : Text) : (bodyElements body).2 = behindStrings body := by
  fun_cases behindStrings body with
  | case1 s rest h =>
    rw [bodyElements, h]
    exact furtherElements_snd _ _
  | case2 h => rw [bodyElements, h]

theorem skip_eq_nil_or_cons (t : Text) : skip t = [] ∨ ∃ c u, skip t = c :: u ∧ Starts c := by
  have hfrom : ∀ inComment, skipFrom inComment t = [] ∨
      ∃ c u, skipFrom inComment t = c :: u ∧ Starts c := by
    intro inComment
    fun_induction skipFrom inComment t with
    | case1 => exact .inl rfl
    | case2 c t ih => exact ih
    | case3 c t _ ih => exact ih
    | case4 t _ ih => exact ih
    | case5 c t hl hc => exact .inr ⟨c, t, rfl, by simpa using hl, hc⟩
  exact hfrom false

theorem skip_skip (t : Text) : skip (skip t) = skip t := by
  rcases skip_eq_nil_or_cons t with h | ⟨c, u, h, hc⟩
  · rw [h]
    rfl
  · rw [h, skip_cons hc]

theorem list_skip (t : Text) : list (skip t) = list t := by
  rw [list, list, skip_skip]

theorem exists_skip_of_list {t : Text} {r : Text × Text} (h : list t = some r) :
    ∃ body, skip t = .char '[' :: body ∧ list (.char '[' :: body) = some r := by
  have hskip : list (skip t) = some r := (list_skip t).trans h
  simp only [list, symbol, skip_skip] at h
  split at h
  · cases h
  · next c body hbody =>
    by_cases hc : c = .char '['
    · subst hc
      exact ⟨body, hbody, hbody ▸ hskip⟩
    · simp [hc] at h

/-- A list that is read has the strings that are read, one after the other, between its brackets. -/
theorem list_eq_some {t v rest : Text} (h : list t = some (v, rest)) :
    ∃ ss, elements t = some (ss, rest) ∧ (∀ s ∈ ss, IsString s) ∧ Bracketed Passed ss v ∧
      ∃ g, Passed g ∧ t = g ++ (v ++ rest) := by
  obtain ⟨g, hg, ht⟩ := exists_skip t
  obtain ⟨body, hbody, hlist⟩ := exists_skip_of_list h
  have hopen : symbol (.char '[') t = some ((), body) := by
    simp only [symbol, hbody, if_pos]
  rw [list_cons, ← bodyElements_snd] at hlist
  obtain ⟨⟨⟨⟩, rest'⟩, hclose, hv⟩ := Option.map_eq_some_iff.mp hlist
  obtain ⟨g', hg', hbehind⟩ := symbol_eq_some hclose
  obtain ⟨rfl, rfl⟩ := Prod.mk.inj hv
  obtain ⟨hss, m, hm, hm'⟩ := bodyElements_spec body
  have hraw : .char '[' :: body = .char '[' :: (m ++ (g' ++ [.char ']'])) ++ rest' := by
    rw [hm, hbehind]
    simp
  have htake : (.char '[' :: body).take ((.char '[' :: body).length - rest'.length) =
      .char '[' :: (m ++ (g' ++ [.char ']'])) := by
    rw [hraw, List.length_append, Nat.add_sub_cancel, List.take_left']
    rfl
  refine ⟨(bodyElements body).1, ?_, hss, ?_, g, hg, ?_⟩
  · simp only [elements, hopen, Option.bind_some, hclose, Option.map_some]
  · rw [htake]
    exact hm' g' hg'
  · rw [htake, ← hraw, ← hbody]
    exact ht

/-! ## Options, fields and items -/

theorem option_eq_some {t k v rest : Text} (h : option t = some ((k, v), rest)) :
    ∃ t₁ t₂, name t = some (k, t₁) ∧ symbol '=' t₁ = some ((), t₂) ∧ value t₂ = some (v, rest) := by
  simp only [option, Option.bind_eq_bind, Option.bind_eq_some_iff] at h
  obtain ⟨⟨k, t₁⟩, h₁, ⟨⟨⟩, t₂⟩, h₂, ⟨v, t₃⟩, h₃, ha⟩ := h
  cases ha
  exact ⟨t₁, t₂, h₁, h₂, h₃⟩

theorem field_eq_some {t n rest : Text} {attributes : List (Text × Text)}
    (h : field t = some ((n, attributes), rest)) :
    ∃ t₁ t₂ t₃, keyword t = some ((), t₁) ∧ name t₁ = some (n, t₂) ∧
      symbol '\x7b' t₂ = some ((), t₃) ∧ attributes = (options t₃.length t₃).1 ∧
      symbol '\x7d' (options t₃.length t₃).2 = some ((), rest) := by
  simp only [field, Option.bind_eq_bind, Option.bind_eq_some_iff] at h
  obtain ⟨⟨⟨⟩, t₁⟩, h₁, ⟨n, t₂⟩, h₂, ⟨⟨⟩, t₃⟩, h₃, ⟨⟨⟩, t₄⟩, h₄, hf⟩ := h
  cases hf
  exact ⟨t₁, t₂, t₃, h₁, h₂, h₃, rfl, h₄⟩

/-- Only what is not a field is an option. -/
theorem item_eq_some {t rest : Text} {i : Item} (h : item t = some (i, rest)) :
    (∃ n attributes, i = .field n attributes ∧ field t = some ((n, attributes), rest)) ∨
      ∃ k v, i = .option k v ∧ field t = none ∧ option t = some ((k, v), rest) := by
  simp only [item] at h
  split at h
  · next n attributes rest' hfield =>
    cases h
    exact .inl ⟨n, attributes, rfl, hfield⟩
  · next hnone =>
    obtain ⟨⟨⟨k, v⟩, rest'⟩, hoption, hi⟩ := Option.map_eq_some_iff.mp h
    cases hi
    exact .inr ⟨k, v, rfl, hnone, hoption⟩

end LineSift.Header
