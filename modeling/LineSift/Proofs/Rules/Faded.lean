import LineSift.Proofs.Rules.Onward

/-!
# Headers of which a part has been overwritten

Code points of a text other than line ends can be overwritten by spaces (`Faded`).  What is read in
front of them is read as before (`Steady`).  Most tokens end by themselves; a name or the keyword
does not go on with a space; and a string in single quotes, which goes on where the rest of its line
has another quote, finds no further quotes there (`singleRest_faded`).
-/

namespace LineSift.Header

/-- Whether a code point is the same as before or has been overwritten by a space. -/
def Fades (c d : CodePoint) : Prop := d = c ∨ d = .char ' ' ∧ c ≠ .char '\n' ∧ c ≠ .char '\r'

/-- A text and the same text with some code points overwritten. -/
def Faded : Text → Text → Prop := List.Forall₂ Fades

/-- Whether what is read in front of a text is read as well when some of the text has been
overwritten. -/
def Steady {α : Type} (read : Read α) : Prop :=
  ∀ {p rest a}, read (p ++ rest) = some (a, rest) → ∀ {rest'}, Faded rest rest' →
    read (p ++ rest') = some (a, rest')

variable {p t t' rest rest' : Text}

theorem Faded.refl (t : Text) : Faded t t := List.forall₂_same.mpr fun _ _ => .inl rfl

theorem Faded.append_left (h : Faded t t') (p : Text) : Faded (p ++ t) (p ++ t') :=
  List.rel_append (Faded.refl p) h

theorem Faded.length_append (h : Faded t t') (p : Text) : (p ++ t').length = (p ++ t).length :=
  (List.Forall₂.length_eq (h.append_left p)).symm

/-- What can stand in the first place. -/
theorem Faded.mem_head? (h : Faded t t') {d : CodePoint} (hd : d ∈ t'.head?) :
    d ∈ t.head? ∨ d = .char ' ' := by
  cases h with
  | nil => cases hd
  | cons hcd _ =>
    obtain rfl := Option.some.inj hd
    rcases hcd with rfl | ⟨rfl, -⟩
    · exact .inl rfl
    · exact .inr rfl

theorem Faded.mem (h : Faded t t') {d : CodePoint} (hd : d ∈ t') : d ∈ t ∨ d = .char ' ' := by
  induction h with
  | nil => cases hd
  | cons hce _ ih =>
    rcases List.mem_cons.mp hd with rfl | hd
    · rcases hce with rfl | ⟨rfl, -⟩
      · exact .inl List.mem_cons_self
      · exact .inr rfl
    · exact (ih hd).imp_left (List.mem_cons_of_mem _)

/-- A reader that has not yet come to the overwritten part takes the same and leaves what stands
before that part. -/
theorem Steady.of_part {α : Type} {read : Read α} (h : Steady read) {a : α} {t₁ : Text}
    (hread : read (p ++ rest) = some (a, t₁)) (hsuffix : t₁ <:+ p ++ rest) (hrest : rest <:+ t₁)
    (hf : Faded rest rest') :
    ∃ p₁, t₁ = p₁ ++ rest ∧ read (p ++ rest') = some (a, p₁ ++ rest') := by
  obtain ⟨p₁, rfl⟩ := hrest
  obtain ⟨q, hq⟩ := hsuffix
  obtain rfl : q ++ p₁ = p := List.append_cancel_right ((List.append_assoc q p₁ rest).trans hq)
  rw [List.append_assoc] at hread
  refine ⟨p₁, rfl, ?_⟩
  rw [List.append_assoc]
  exact h hread (hf.append_left p₁)

/-! ## Gaps, names and symbols -/

theorem skipFrom_suffix (inComment : Bool) (t : Text) : skipFrom inComment t <:+ t := by
  fun_induction skipFrom inComment t with
  | case1 => exact List.suffix_refl _
  | case2 c t ih => exact ih.trans (List.suffix_cons c t)
  | case3 c t _ ih => exact ih.trans (List.suffix_cons c t)
  | case4 t _ ih => exact ih.trans (List.suffix_cons _ t)
  | case5 => exact List.suffix_refl _

/-- A gap that has an end: white space and comments, each with the line feed that ends it. -/
inductive Closed : Text → Prop
  | nil : Closed []
  | layout {c : CodePoint} {g : Text} : c.isLayout = true → Closed g → Closed (c :: g)
  | comment {c g : Text} : .char '\n' ∉ c → Closed g → Closed (.char '#' :: (c ++ .char '\n' :: g))

theorem Closed.skip_append {g : Text} (h : Closed g) (x : Text) : skip (g ++ x) = skip x := by
  induction h with
  | nil => rfl
  | layout hc _ ih =>
    rw [List.cons_append, skip, skipFrom, if_pos hc]
    exact ih
  | comment hc _ ih =>
    rw [List.cons_append, List.append_assoc, List.cons_append]
    exact (skipFrom_true_append hc _).trans ih

/-- A gap behind which a token begins has an end. -/
theorem closed_of_skip {g u : Text} {c : CodePoint} (h : skip (g ++ c :: u) = c :: u) :
    Closed g := by
  have hshort : ∀ b, skipFrom b u ≠ c :: u := fun b hb => by
    have hle := (skipFrom_suffix b u).length_le
    rw [hb, List.length_cons] at hle
    omega
  have hfrom : (skipFrom false (g ++ c :: u) = c :: u → Closed g) ∧
      (skipFrom true (g ++ c :: u) = c :: u →
        ∃ w g', g = w ++ .char '\n' :: g' ∧ .char '\n' ∉ w ∧ Closed g') := by
    clear h
    induction g with
    | nil => exact ⟨fun _ => .nil, fun h => absurd h (hshort _)⟩
    | cons d g ih =>
      constructor
      · intro h
        rw [List.cons_append, skipFrom] at h
        split at h
        · next hd => exact .layout hd (ih.1 h)
        · split at h
          · next hd =>
            obtain ⟨w, g', rfl, hw, hg'⟩ := ih.2 h
            exact hd ▸ .comment hw hg'
          · have hlength := congrArg List.length h
            simp only [List.length_cons, List.length_append] at hlength
            omega
      · intro h
        rw [List.cons_append, skipFrom] at h
        by_cases hd : d = .char '\n'
        · rw [bne_eq_false_iff_eq.mpr hd] at h
          exact ⟨[], g, by rw [hd]; rfl, List.not_mem_nil, ih.1 h⟩
        · rw [bne_iff_ne.mpr hd] at h
          obtain ⟨w, g', rfl, hw, hg'⟩ := ih.2 h
          exact ⟨d :: w, g', rfl, List.not_mem_cons_of_ne_of_not_mem (Ne.symm hd) hw, hg'⟩
  exact hfrom.1 h

/-- A text with spaces in the place of everything but white space. -/
def blank (t : Text) : Text := t.map fun c => if c.isLayout then c else .char ' '

theorem faded_blank (t : Text) : Faded t (blank t) := by
  refine List.forall₂_map_right_iff.mpr (List.forall₂_same.mpr fun c _ => ?_)
  split
  · exact .inl rfl
  · next hc =>
    refine .inr ⟨rfl, ?_, ?_⟩
    · rintro rfl
      exact hc (by decide)
    · rintro rfl
      exact hc (by decide)

theorem closed_blank (t : Text) : Closed (blank t) := by
  induction t with
  | nil => exact .nil
  | cons c t ih =>
    refine .layout ?_ ih
    dsimp only
    split
    · next hc => exact hc
    · decide

/-- A token stays where it is, whatever stands behind it. -/
theorem skip_token {q : Text} (h : skip (p ++ rest) = q ++ rest) (hq : q ≠ []) (rest' : Text) :
    skip (p ++ rest') = q ++ rest' := by
  obtain ⟨c, q, rfl⟩ := List.exists_cons_of_ne_nil hq
  obtain ⟨g, hg⟩ := skip_suffix (p ++ rest)
  rw [h, ← List.append_assoc] at hg
  obtain rfl : g ++ c :: q = p := List.append_cancel_right hg
  have hstarts : Starts c := by
    rcases skip_eq_nil_or_cons ((g ++ c :: q) ++ rest) with hnil | ⟨d, u, hd, hstarts⟩
    · rw [h] at hnil
      cases hnil
    · rw [h] at hd
      exact (List.cons.inj hd).1 ▸ hstarts
  rw [List.append_assoc] at h ⊢
  rw [(closed_of_skip h).skip_append]
  exact skip_cons hstarts _

theorem name_steady : Steady name := by
  intro p rest n h rest' hf
  obtain ⟨hn, hskip, hhead⟩ := name_eq_some_iff.mp h
  refine name_eq_some_iff.mpr ⟨hn, skip_token hskip hn.1 rest', fun d hd => ?_⟩
  rcases hf.mem_head? hd with hd | rfl
  · exact hhead d hd
  · decide

theorem symbol_steady (c : CodePoint) : Steady (symbol c) := by
  intro p rest a h rest' _
  have hskip : skip (p ++ rest') = c :: rest' :=
    skip_token (q := [c]) (skip_of_symbol h) (List.cons_ne_nil c []) rest'
  simp only [symbol, hskip, if_pos]

theorem keyword_steady : Steady keyword := by
  intro p rest a h rest' hf
  simp only [keyword] at h
  split at h
  · next f i e l d rest₁ hskip =>
    split at h
    · next hword =>
      obtain rfl : rest₁ = rest := by simpa using h
      have hskip' : skip (p ++ rest') = f :: i :: e :: l :: d :: rest' :=
        skip_token (q := [f, i, e, l, d]) hskip (List.cons_ne_nil f _) rest'
      simp only [Bool.and_eq_true, Bool.not_eq_true'] at hword
      have hend : rest'.head?.any isKeywordPart = false := by
        rw [Option.any_eq_false]
        intro c hc
        rcases hf.mem_head? hc with hc | rfl
        · exact (Option.any_eq_false ..).mp hword.2 c hc
        · decide
      simp only [keyword, hskip', hword.1, hend, Bool.not_false, Bool.and_self, if_true]
    · cases h
  · cases h

/-! ## Strings -/

theorem doubleRest_steady {a : Text} (h : doubleRest t = some (a, rest)) (rest' : Text) :
    doubleRest (a ++ rest') = some (a, rest') := by
  fun_induction doubleRest t generalizing a rest with
  | case1 => cases h
  | case2 =>
    cases h
    exact doubleRest_quote rest'
  | case3 => cases h
  | case4 =>
    cases h
    exact doubleRest_quote rest'
  | case5 => cases h
  | case6 d t hd _ ih =>
    obtain ⟨a₁, rfl, h₁⟩ := onto_eq_some.mp h
    obtain ⟨a₂, rfl, h₂⟩ := onto_eq_some.mp h₁
    rw [List.cons_append, List.cons_append, doubleRest_pair hd, ih h₂]
    rfl
  | case7 => cases h
  | case8 c d t hq hb hc ih =>
    obtain ⟨a₁, rfl, h₁⟩ := onto_eq_some.mp h
    obtain ⟨hn, hr⟩ := not_or.mp hc
    rw [List.cons_append, doubleRest_plain hq hb hn hr, ih h₁]
    rfl

theorem rawRest_steady {a : Text} (h : rawRest t = some (a, rest)) (rest' : Text) :
    rawRest (a ++ rest') = some (a, rest') := by
  induction t generalizing a with
  | nil => cases h
  | cons c t ih =>
    rw [rawRest] at h
    split at h
    · next hc =>
      cases h
      rw [List.singleton_append, rawRest, if_pos hc]
    · next hc =>
      obtain ⟨a₁, rfl, h₁⟩ := onto_eq_some.mp h
      rw [List.cons_append, rawRest, if_neg hc, ih h₁]
      rfl

/-- Where the rest of a line has no quote, it has none after overwriting. -/
theorem singleRest_faded (h : singleRest t = none) (hf : Faded t t') : singleRest t' = none := by
  fun_induction singleRest t generalizing t' with
  | case1 =>
    cases hf
    rfl
  | case2 => cases h
  | case3 c hc =>
    cases hf with
    | cons hcd hnil =>
      cases hnil
      rcases hcd with rfl | ⟨rfl, -⟩
      · rw [singleRest, if_neg hc]
      · rfl
  | case4 => cases h
  | case5 => cases h
  | case6 => cases h
  | case7 c d t _ _ hc =>
    cases hf with
    | cons hcd _ =>
      rcases hcd with rfl | ⟨-, hn, hr⟩
      · exact singleRest_lineEnd hc _
      · exact absurd hc (not_or_intro hn hr)
  | case8 c d t hq hpair hc ih =>
    obtain ⟨hn, hr⟩ := not_or.mp hc
    have hrest : singleRest (d :: t) = none := Option.map_eq_none_iff.mp h
    cases hf with
    | @cons _ c' _ _ hcd hf =>
      have hrest' := ih hrest hf
      cases hf with
      | @cons _ d' _ _ hde _ =>
        rcases hcd with hsame | ⟨rfl, -⟩
        · have hnot : c = .char '\\' → d' ≠ .char '\'' := fun hb he => by
            rcases hde with hd | ⟨hd, -⟩
            · exact hpair ⟨hb, hd.symm.trans he⟩
            · exact absurd (hd.symm.trans he) (by decide)
          rw [hsame, singleRest_plain hq hnot hn hr, hrest']
          rfl
        · rw [singleRest_plain (by decide) (fun hb => absurd hb (by decide))
            (by decide) (by decide), hrest']
          rfl

theorem singleRest_steady {a : Text} (h : singleRest t = some (a, rest)) (hf : Faded rest rest') :
    singleRest (a ++ rest') = some (a, rest') := by
  fun_induction singleRest t generalizing a rest with
  | case1 => cases h
  | case2 =>
    cases h
    exact singleRest_quote rest'
  | case3 => cases h
  | case4 =>
    cases h
    exact singleRest_quote rest'
  | case5 c d t hq hpair r hr ih =>
    cases h
    obtain ⟨a₁, rfl, h₁⟩ := onto_eq_some.mp hr
    obtain ⟨a₂, rfl, h₂⟩ := onto_eq_some.mp h₁
    obtain ⟨rfl, rfl⟩ := hpair
    exact singleRest_pair (ih h₂ hf)
  | case6 c d t hq hpair hnone _ =>
    cases h
    have hrest : singleRest t = none := Option.map_eq_none_iff.mp (Option.map_eq_none_iff.mp hnone)
    rw [List.cons_append, List.singleton_append, singleRest, if_neg hq, if_pos hpair,
      singleRest_faded hrest hf]
    rfl
  | case7 => cases h
  | case8 c d t hq hpair hc ih =>
    obtain ⟨a₁, rfl, h₁⟩ := onto_eq_some.mp h
    obtain ⟨hn, hr⟩ := not_or.mp hc
    obtain ⟨hparts, b, hb⟩ := singleRest_eq_some h₁
    obtain ⟨e, a₂, rfl⟩ : ∃ e a₂, a₁ = e :: a₂ := List.exists_cons_of_ne_nil (by simp [hb])
    obtain rfl : d = e := (List.cons.inj hparts).1
    have hplain := singleRest_plain hq (fun hb hd => hpair ⟨hb, hd⟩) hn hr (a₂ ++ rest')
    rw [List.cons_append, List.cons_append, hplain, ← List.cons_append, ih h₁ hf]
    rfl

theorem string_steady : Steady string := by
  intro p rest s h rest' hf
  simp only [string] at h
  split at h
  · cases h
  · next c u hskip =>
    have hskip' {a : Text} (hu : u = a ++ rest) : skip (p ++ rest') = c :: (a ++ rest') :=
      skip_token (q := c :: a) (hskip.trans (congrArg (c :: ·) hu)) (List.cons_ne_nil c a) rest'
    split at h
    · next hc =>
      obtain ⟨a, rfl, ha⟩ := onto_eq_some.mp h
      simp only [string, hskip' (doubleRest_eq_some ha).1, if_pos hc, doubleRest_steady ha]
      rfl
    · next hq =>
      split at h
      · next hc =>
        obtain ⟨a, rfl, ha⟩ := onto_eq_some.mp h
        simp only [string, hskip' (singleRest_eq_some ha).1, if_neg hq, if_pos hc,
          singleRest_steady ha hf]
        rfl
      · next hs =>
        split at h
        · next hc =>
          obtain ⟨a, rfl, ha⟩ := onto_eq_some.mp h
          simp only [string, hskip' (rawRest_eq_some ha).1, if_neg hq, if_neg hs, if_pos hc,
            rawRest_steady ha]
          rfl
        · cases h

/-! ## Lists and values -/

theorem string_suffix {s : Text} (h : string t = some (s, rest)) : rest <:+ t := by
  obtain ⟨-, g, -, rfl⟩ := string_eq_some h
  exact (List.suffix_append s rest).trans (List.suffix_append g _)

theorem furtherStrings_suffix (n : Nat) (t : Text) : furtherStrings n t <:+ t := by
  obtain ⟨-, m, hm, -⟩ := furtherElements_spec n t
  rw [furtherElements_snd] at hm
  exact ⟨m, hm.symm⟩

/-- The strings of a list that ends in front of what has been overwritten end there as before. -/
theorem furtherStrings_steady {n : Nat}
    (h : symbol ']' (furtherStrings n (p ++ rest)) = some ((), rest)) (hf : Faded rest rest') :
    symbol ']' (furtherStrings n (p ++ rest')) = some ((), rest') := by
  generalize ht : p ++ rest = t at h
  fun_induction furtherStrings n t generalizing p with
  | case1 t =>
    subst ht
    exact symbol_steady _ h hf
  | case2 n t s v hread ih =>
    subst ht
    obtain ⟨⟨⟨⟩, u⟩, hcomma, hstring⟩ := Option.bind_eq_some_iff.mp hread
    have hv : rest <:+ v := (symbol_suffix h).trans (furtherStrings_suffix n v)
    obtain ⟨p₁, rfl, hcomma'⟩ := Steady.of_part (symbol_steady ',') hcomma (symbol_suffix hcomma)
      (hv.trans (string_suffix hstring)) hf
    obtain ⟨p₂, rfl, hstring'⟩ := string_steady.of_part hstring (string_suffix hstring) hv hf
    rw [furtherStrings, hcomma', Option.bind_some]
    simp only [hstring']
    exact ih rfl h
  | case3 n t =>
    subst ht
    have hclose := symbol_steady _ h hf
    rw [furtherStrings, symbol_eq_none hclose (by decide), Option.bind_none]
    exact hclose

theorem behindStrings_steady (h : symbol ']' (behindStrings (p ++ rest)) = some ((), rest))
    (hf : Faded rest rest') : symbol ']' (behindStrings (p ++ rest')) = some ((), rest') := by
  unfold behindStrings at h ⊢
  cases hs : string (p ++ rest) with
  | some r =>
    obtain ⟨s, v⟩ := r
    simp only [hs] at h
    have hv : rest <:+ v := (symbol_suffix h).trans (furtherStrings_suffix v.length v)
    obtain ⟨p₁, rfl, hs'⟩ := string_steady.of_part hs (string_suffix hs) hv hf
    simp only [hs', hf.length_append]
    exact furtherStrings_steady h hf
  | none =>
    simp only [hs] at h
    have hclose := symbol_steady _ h hf
    have hnone : string (p ++ rest') = none := string_of_bracket (skip_of_symbol hclose) (.inr rfl)
    simp only [hnone]
    exact hclose

theorem behindStrings_suffix (t : Text) : behindStrings t <:+ t := by
  obtain ⟨-, m, hm, -⟩ := bodyElements_spec t
  rw [bodyElements_snd] at hm
  exact ⟨m, hm.symm⟩

/-- What stands before the rest of a text. -/
theorem take_front (a b : Text) : (a ++ b).take ((a ++ b).length - b.length) = a := by
  rw [List.length_append, Nat.add_sub_cancel, List.take_left]

theorem list_steady : Steady list := by
  intro p rest v h rest' hf
  obtain ⟨body, hskip, hlist⟩ := exists_skip_of_list h
  rw [list_cons] at hlist
  obtain ⟨⟨⟨⟩, rest₁⟩, hclose, hv⟩ := Option.map_eq_some_iff.mp hlist
  obtain ⟨rfl, rfl⟩ := Prod.mk.inj hv
  obtain ⟨b, rfl⟩ : rest₁ <:+ body := (symbol_suffix hclose).trans (behindStrings_suffix body)
  have hskip' : skip (p ++ rest') = .char '[' :: (b ++ rest') :=
    skip_token (q := .char '[' :: b) hskip (List.cons_ne_nil _ b) rest'
  have htaken (u : Text) : (CodePoint.char '[' :: (b ++ u)).take
      ((CodePoint.char '[' :: (b ++ u)).length - u.length) = .char '[' :: b :=
    take_front (.char '[' :: b) u
  rw [← list_skip, hskip', list_cons, behindStrings_steady hclose hf]
  exact congrArg some (Prod.ext ((htaken rest').trans (htaken rest₁).symm) rfl)

theorem value_steady : Steady value := by
  intro p rest v h rest' hf
  rcases value_eq_some h with hlist | hstring
  · simp only [value, list_steady hlist hf]
  · have hstring' := string_steady hstring hf
    have hlist : list (p ++ rest') = none := by
      rw [Option.eq_none_iff_forall_ne_some]
      intro r hr
      obtain ⟨body, hskip, -⟩ := exists_skip_of_list hr
      rw [string_of_bracket hskip (.inl rfl)] at hstring'
      cases hstring'
    simp only [value, hlist, hstring']

/-! ## Options, fields and items -/

theorem option_steady : Steady option := by
  intro p rest a h rest' hf
  obtain ⟨t₁, t₂, h₁, h₂, h₃⟩ := option_eq_some h
  have hrest := value_suffix h₃
  obtain ⟨p₁, rfl, h₁'⟩ := name_steady.of_part h₁ (name_suffix h₁)
    (hrest.trans (symbol_suffix h₂)) hf
  obtain ⟨p₂, rfl, h₂'⟩ := Steady.of_part (symbol_steady '=') h₂ (symbol_suffix h₂) hrest hf
  simp [option, h₁', h₂', value_steady h₃ hf]

/-- The options of a field that ends in front of what has been overwritten are the same
as before. -/
theorem options_steady {n : Nat}
    (h : symbol '\x7d' (options n (p ++ rest)).2 = some ((), rest)) (hf : Faded rest rest') :
    (options n (p ++ rest')).1 = (options n (p ++ rest)).1 ∧
      symbol '\x7d' (options n (p ++ rest')).2 = some ((), rest') := by
  induction n generalizing p with
  | zero => exact ⟨rfl, symbol_steady _ h hf⟩
  | succ n ih =>
    rw [options] at h
    rw [options, options]
    cases hread : option (p ++ rest) with
    | none =>
      rw [hread] at h
      have hclose := symbol_steady _ h hf
      have hname : name (p ++ rest') = none := by
        simp only [name, skip_of_symbol hclose]
        rfl
      have hnone : option (p ++ rest') = none := by simp [option, hname]
      rw [hnone]
      exact ⟨rfl, hclose⟩
    | some r =>
      obtain ⟨a, v⟩ := r
      rw [hread] at h
      have hv : rest <:+ v := (symbol_suffix h).trans (options_readAt n v).1
      obtain ⟨p₁, rfl, hread'⟩ := option_steady.of_part hread (option_readAt hread).1 hv hf
      rw [hread']
      exact ⟨congrArg (a :: ·) (ih h).1, (ih h).2⟩

theorem field_steady : Steady field := by
  rintro p rest ⟨n, attributes⟩ h rest' hf
  obtain ⟨t₁, t₂, t₃, h₁, h₂, h₃, rfl, h₄⟩ := field_eq_some h
  have hrest₃ : rest <:+ t₃ := (symbol_suffix h₄).trans (options_readAt t₃.length t₃).1
  have hrest₂ := hrest₃.trans (symbol_suffix h₃)
  have hrest₁ := hrest₂.trans (name_suffix h₂)
  obtain ⟨p₁, rfl, h₁'⟩ := keyword_steady.of_part h₁ (keyword_suffix h₁) hrest₁ hf
  obtain ⟨p₂, rfl, h₂'⟩ := name_steady.of_part h₂ (name_suffix h₂) hrest₂ hf
  obtain ⟨p₃, rfl, h₃'⟩ := Steady.of_part (symbol_steady '\x7b') h₃ (symbol_suffix h₃) hrest₃ hf
  obtain ⟨hattributes, hclose⟩ := options_steady h₄ hf
  simp only [field, h₁', h₂', h₃', hf.length_append, hattributes, hclose, Option.bind_eq_bind,
    Option.bind_some]
  rfl

/-- Items are read in front of what has been overwritten as they were before. -/
theorem item_steady : Steady item := by
  intro p rest i h rest' hf
  rcases item_eq_some h with ⟨n, attributes, rfl, hfield⟩ | ⟨k, v, rfl, -, hoption⟩
  · simp only [item, field_steady hfield hf]
  · have hoption' := option_steady hoption hf
    obtain ⟨t₁, t₂, h₁, h₂, -⟩ := option_eq_some hoption'
    simp only [item, field_of_equals h₁ h₂, hoption', Option.map_some]

end LineSift.Header
