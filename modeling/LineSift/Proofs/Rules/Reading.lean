import Mathlib.Data.List.TakeWhile
import LineSift.Proofs.Rules.Written

/-!
# Written headers are read

Every reader of a header takes exactly the token that is laid out next, whatever gap stands before
it and whatever stands behind it.  Strings, lists and values end by themselves; a name ends where a
symbol or a gap begins; and an option whose name begins like the keyword is no field, since no
opening brace follows.  So the items read from a written header are the items written
(`parse_of_writes`).
-/

namespace LineSift.Header

open Text (onto)

/-! ## Gaps -/

/-- A comment is skipped up to the end of its line. -/
theorem skipFrom_true_append {c : Text} (h : .char '\n' ∉ c) (t : Text) :
    skipFrom true (c ++ .char '\n' :: t) = skipFrom false t := by
  induction c with
  | nil => rfl
  | cons d c ih =>
    obtain ⟨hd, hc⟩ := List.ne_and_not_mem_of_not_mem_cons h
    rw [List.cons_append, skipFrom, bne_iff_ne.mpr (Ne.symm hd), ih hc]

/-- What stands between tokens is skipped. -/
theorem skip_gap {g : Text} (h : Gap g) (t : Text) : skip (g ++ t) = skip t := by
  induction h with
  | nil => rfl
  | space _ ih => exact ih
  | lineFeed _ ih => exact ih
  | comment hc _ ih =>
    rw [List.cons_append, List.append_assoc, List.cons_append]
    exact (skipFrom_true_append hc _).trans ih

theorem skip_of_gap {g : Text} (h : Gap g) : skip g = [] := by
  have hskip := skip_gap h []
  rwa [List.append_nil] at hskip

/-- Whether a code point begins a token. -/
def Starts (c : CodePoint) : Prop := c.isLayout = false ∧ c ≠ .char '#'

/-- Nothing is skipped in front of a token. -/
theorem skip_cons {c : CodePoint} (h : Starts c) (t : Text) : skip (c :: t) = c :: t := by
  rw [skip, skipFrom, if_neg (by simp [h.1]), if_neg h.2]

theorem starts_of_isNamePart {c : CodePoint} (h : isNamePart c) : Starts c := by
  refine ⟨Bool.eq_false_iff.mpr fun hl => ?_, fun hc => ?_⟩
  · rcases CodePoint.isLayout_iff.mp hl with rfl | rfl | rfl | rfl <;> exact absurd h (by decide)
  · exact absurd (hc ▸ h) (by decide)

/-- A gap that is not empty begins with a code point that no name contains. -/
theorem Gap.eq_nil_or_cons {g : Text} (h : Gap g) :
    g = [] ∨ ∃ c u, g = c :: u ∧ c ∈ [.char ' ', .char '\n', .char '#'] := by
  cases h with
  | nil => exact .inl rfl
  | space _ => exact .inr ⟨_, _, rfl, by simp⟩
  | lineFeed _ => exact .inr ⟨_, _, rfl, by simp⟩
  | comment _ _ => exact .inr ⟨_, _, rfl, by simp⟩

/-- Spaces are a gap. -/
theorem Spaces.gap {g : Text} (h : Spaces g) : Gap g := by
  induction g with
  | nil => exact .nil
  | cons c g ih =>
    obtain rfl := h c List.mem_cons_self
    exact .space (ih fun d hd => h d (List.mem_cons_of_mem _ hd))

section Gap

variable {g : Text} (h : Gap g) (t : Text)
include h

theorem name_gap : name (g ++ t) = name t := by
  simp only [name, skip_gap h]

theorem symbol_gap (c : CodePoint) : symbol c (g ++ t) = symbol c t := by
  simp only [symbol, skip_gap h]

theorem string_gap : string (g ++ t) = string t := by
  simp only [string, skip_gap h]

theorem list_gap : list (g ++ t) = list t := by
  simp only [list, skip_gap h]

theorem value_gap : value (g ++ t) = value t := by
  simp only [value, list_gap h, string_gap h]

theorem keyword_gap : keyword (g ++ t) = keyword t := by
  simp only [keyword, skip_gap h]

end Gap

theorem symbol_self {c : CodePoint} (h : Starts c) (t : Text) :
    symbol c (c :: t) = some ((), t) := by
  simp only [symbol, skip_cons h, if_pos]

theorem symbol_of_ne {c d : CodePoint} (hd : Starts d) (h : d ≠ c) (t : Text) :
    symbol c (d :: t) = none := by
  simp only [symbol, skip_cons hd, if_neg h]

/-! ## Strings -/

theorem doubleRest_quote (t : Text) : doubleRest (.char '"' :: t) = some ([.char '"'], t) := by
  cases t <;> simp [doubleRest]

theorem doubleRest_pair {c : CodePoint} (hc : c ≠ .char '\n') (t : Text) :
    doubleRest (.char '\\' :: c :: t) = onto (.char '\\') (onto c (doubleRest t)) := by
  rw [doubleRest, if_neg (by decide), if_pos rfl, if_neg hc]

theorem doubleRest_plain {c : CodePoint} (hq : c ≠ .char '"') (hb : c ≠ .char '\\')
    (hn : c ≠ .char '\n') (hr : c ≠ .char '\r') (t : Text) :
    doubleRest (c :: t) = onto c (doubleRest t) := by
  cases t with
  | nil => simp [doubleRest, hq]
  | cons d t => rw [doubleRest, if_neg hq, if_neg hb, if_neg (not_or_intro hn hr)]

/-- A string in double quotes ends at the quote behind its body: within it each quote has
a backslash. -/
theorem doubleRest_body {b : Text} (h : PairedBody (.char '"') b) (hn : .char '\n' ∉ b)
    (hr : .char '\r' ∉ b) (t : Text) :
    doubleRest (b ++ .char '"' :: t) = some (b ++ [.char '"'], t) := by
  induction h with
  | nil => exact doubleRest_quote t
  | @plain c b hq hb _ ih =>
    obtain ⟨hcn, hn⟩ := List.ne_and_not_mem_of_not_mem_cons hn
    obtain ⟨hcr, hr⟩ := List.ne_and_not_mem_of_not_mem_cons hr
    rw [List.cons_append, doubleRest_plain hq hb hcn.symm hcr.symm, ih hn hr]
    rfl
  | @pair c b _ ih =>
    obtain ⟨hcn, hn⟩ := List.ne_and_not_mem_of_not_mem_cons (List.not_mem_of_not_mem_cons hn)
    rw [List.cons_append, List.cons_append, doubleRest_pair hcn.symm,
      ih hn fun h => hr (List.mem_cons_of_mem _ (List.mem_cons_of_mem _ h))]
    rfl

theorem singleRest_quote (t : Text) : singleRest (.char '\'' :: t) = some ([.char '\''], t) := by
  cases t <;> simp [singleRest]

/-- A quote behind a backslash belongs to the string if another quote on the line ends it. -/
theorem singleRest_pair {t a rest : Text} (h : singleRest t = some (a, rest)) :
    singleRest (.char '\\' :: .char '\'' :: t) = some (.char '\\' :: .char '\'' :: a, rest) := by
  rw [singleRest, if_neg (by decide), if_pos ⟨rfl, rfl⟩, h]
  rfl

theorem singleRest_plain {c d : CodePoint} (hq : c ≠ .char '\'')
    (hb : c = .char '\\' → d ≠ .char '\'') (hn : c ≠ .char '\n') (hr : c ≠ .char '\r') (t : Text) :
    singleRest (c :: d :: t) = onto c (singleRest (d :: t)) := by
  rw [singleRest, if_neg hq, if_neg fun h => hb h.1 h.2, if_neg (not_or_intro hn hr)]

/-- Induction over the body of a single-quoted string: a quote comes with the backslash
before it. -/
theorem SingleBody.induction {motive : Text → Prop} (nil : motive [])
    (pair : ∀ b, motive b → motive (.char '\\' :: .char '\'' :: b))
    (last : ∀ c, c ≠ .char '\'' → c ≠ .char '\\' → motive [c])
    (plain : ∀ c d b, c ≠ .char '\'' → (c = .char '\\' → d ≠ .char '\'') → motive (d :: b) →
      motive (c :: d :: b)) :
    ∀ {b : Text}, SingleBody b → motive b
  | [], _ => nil
  | [c], h => last c
      (fun hc => by simpa using h.behind_backslash [] [] (by rw [hc]; rfl))
      (fun hc => h.getLast?_ne (by rw [hc]; rfl))
  | c :: d :: b, h => by
    have hc : c ≠ .char '\'' := fun hc => by
      simpa using h.behind_backslash [] (d :: b) (by rw [hc]; rfl)
    have htail : d ≠ .char '\'' ∨ c ≠ .char '\\' → SingleBody (d :: b) := fun hne =>
      { behind_backslash := fun before behind he => by
          have := h.behind_backslash (c :: before) behind (by rw [he]; rfl)
          cases before with
          | nil =>
            obtain ⟨rfl, rfl⟩ := List.cons.inj he
            exact absurd rfl (hne.resolve_right fun hcb => hcb (by simpa using this))
          | cons e before => rwa [List.getLast?_cons_cons] at this
        getLast?_ne := by simpa [List.getLast?_cons_cons] using h.getLast?_ne }
    -- What is left behind a pair, or behind a character that stands alone, is again such a body:
    -- its first quote has its backslash in it.
    by_cases hpair : c = .char '\\' ∧ d = .char '\''
    · obtain ⟨rfl, rfl⟩ := hpair
      refine pair b (SingleBody.induction nil pair last plain
        ⟨fun before behind he => ?_, fun hl => ?_⟩)
      · have := h.behind_backslash (.char '\\' :: .char '\'' :: before) behind (by rw [he]; rfl)
        cases before with
        | nil => simp at this
        | cons e before => rwa [List.getLast?_cons_cons, List.getLast?_cons_cons] at this
      · refine h.getLast?_ne ?_
        cases b with
        | nil => simp at hl
        | cons e b => rwa [List.getLast?_cons_cons, List.getLast?_cons_cons]
    · exact plain c d b hc (fun hb hd => hpair ⟨hb, hd⟩)
        (SingleBody.induction nil pair last plain (htail (by tauto)))

/-- A string in single quotes ends at the quote behind its body, and this is found by trying on
behind every quote with a backslash. -/
theorem singleRest_body {b : Text} (h : SingleBody b) (hn : .char '\n' ∉ b)
    (hr : .char '\r' ∉ b) (t : Text) :
    singleRest (b ++ .char '\'' :: t) = some (b ++ [.char '\''], t) := by
  refine SingleBody.induction (motive := fun b => .char '\n' ∉ b → .char '\r' ∉ b →
    singleRest (b ++ .char '\'' :: t) = some (b ++ [.char '\''], t)) ?nil ?pair ?last ?plain h hn hr
  case nil => exact fun _ _ => singleRest_quote t
  case pair =>
    intro b ih hn hr
    exact singleRest_pair (ih (fun h => hn (List.mem_cons_of_mem _ (List.mem_cons_of_mem _ h)))
      fun h => hr (List.mem_cons_of_mem _ (List.mem_cons_of_mem _ h)))
  case last =>
    intro c hq hb hn hr
    obtain ⟨hcn, -⟩ := List.ne_and_not_mem_of_not_mem_cons hn
    obtain ⟨hcr, -⟩ := List.ne_and_not_mem_of_not_mem_cons hr
    rw [List.cons_append, List.nil_append,
      singleRest_plain hq (fun h => absurd h hb) hcn.symm hcr.symm, singleRest_quote]
    rfl
  case plain =>
    intro c d b hq hb ih hn hr
    obtain ⟨hcn, hn⟩ := List.ne_and_not_mem_of_not_mem_cons hn
    obtain ⟨hcr, hr⟩ := List.ne_and_not_mem_of_not_mem_cons hr
    have hrest := ih hn hr
    rw [List.cons_append] at hrest
    rw [List.cons_append, List.cons_append, singleRest_plain hq hb hcn.symm hcr.symm, hrest]
    rfl

/-- A raw string ends at the next backtick. -/
theorem rawRest_body {b : Text} (h : .char '`' ∉ b) (t : Text) :
    rawRest (b ++ .char '`' :: t) = some (b ++ [.char '`'], t) := by
  induction b with
  | nil => rfl
  | cons c b ih =>
    obtain ⟨hc, hb⟩ := List.ne_and_not_mem_of_not_mem_cons h
    rw [List.cons_append, rawRest, if_neg hc.symm, ih hb]
    rfl

theorem Quoted.starts {s : Text} (h : Quoted s) :
    ∃ q u, s = q :: u ∧ q ∈ [.char '"', .char '\'', .char '`'] := by
  cases h with
  | double _ => exact ⟨_, _, rfl, by simp⟩
  | single _ => exact ⟨_, _, rfl, by simp⟩
  | raw _ => exact ⟨_, _, rfl, by simp⟩

/-- A string ends by itself, whatever stands behind it. -/
theorem string_quoted {s : Text} (h : Quoted s) (hn : .char '\n' ∉ s) (hr : .char '\r' ∉ s)
    (t : Text) : string (s ++ t) = some (s, t) := by
  cases h with
  | @double b hb =>
    simp only [List.mem_cons, List.mem_append, not_or] at hn hr
    rw [List.cons_append, List.append_assoc, List.singleton_append, string,
      skip_cons ⟨by decide, by decide⟩]
    simp only [if_pos, doubleRest_body hb hn.2.1 hr.2.1, Text.onto_some]
  | @single b hb =>
    simp only [List.mem_cons, List.mem_append, not_or] at hn hr
    rw [List.cons_append, List.append_assoc, List.singleton_append, string,
      skip_cons ⟨by decide, by decide⟩]
    simp only [if_pos, singleRest_body hb hn.2.1 hr.2.1, Text.onto_some]
    rfl
  | @raw b hb =>
    rw [List.cons_append, List.append_assoc, List.singleton_append, string,
      skip_cons ⟨by decide, by decide⟩]
    simp only [if_pos, rawRest_body hb, Text.onto_some]
    rfl

/-! ## Lists and values -/

/-- Behind the first string of a list its other strings are read, up to the bracket that ends it. -/
theorem furtherStrings_elements {ss : List Text} {e : Text} (h : Elements Spaces ss e)
    (hq : ∀ s ∈ ss, Quoted s) (hn : .char '\n' ∉ e) (hr : .char '\r' ∉ e) (t : Text) :
    ∃ s rest, string (e ++ .char ']' :: t) = some (s, rest) ∧
      rest.length ≤ (e ++ .char ']' :: t).length ∧
      ∀ n, rest.length ≤ n →
        ∃ g, Gap g ∧ furtherStrings n rest = g ++ .char ']' :: t := by
  induction h with
  | @last s g hg =>
    simp only [List.mem_append, not_or] at hn hr
    refine ⟨s, g ++ .char ']' :: t, ?_, by simp, fun n _ => ⟨g, hg.gap, ?_⟩⟩
    · rw [List.append_assoc]
      exact string_quoted (hq s List.mem_cons_self) hn.1 hr.1 _
    · cases n with
      | zero => rfl
      | succ n =>
        rw [furtherStrings, symbol_gap hg.gap,
          symbol_of_ne ⟨by decide, by decide⟩ (by decide), Option.bind_none]
  | @more s g g' e ss hg hg' _ ih =>
    simp only [List.mem_append, List.mem_cons, not_or] at hn hr
    obtain ⟨s', rest, hs', hlen, hrest⟩ := ih (fun s hs => hq s (List.mem_cons_of_mem _ hs))
      hn.2.2.2.2 hr.2.2.2.2
    refine ⟨s, g ++ .char ',' :: (g' ++ (e ++ .char ']' :: t)), ?_, by simp, fun n hle => ?_⟩
    · have := string_quoted (hq s List.mem_cons_self) hn.1 hr.1
        (g ++ .char ',' :: (g' ++ (e ++ .char ']' :: t)))
      simpa only [List.append_assoc, List.cons_append] using this
    · obtain ⟨n, rfl⟩ : ∃ m, n = m + 1 := by
        refine Nat.exists_eq_succ_of_ne_zero fun h0 => ?_
        simp [h0] at hle
      obtain ⟨g'', hg'', hend⟩ := hrest n (by
        simp only [List.length_append, List.length_cons] at hle hlen ⊢
        omega)
      refine ⟨g'', hg'', ?_⟩
      rw [furtherStrings, symbol_gap hg.gap, symbol_self ⟨by decide, by decide⟩, Option.bind_some]
      simp only [string_gap hg'.gap, hs', hend]

/-- The text behind the first bracket of a list and its strings. -/
def behindStrings (body : Text) : Text :=
  match string body with
  | some (_, rest) => furtherStrings rest.length rest
  | none => body

/-- What is read as a list is all that stands from its bracket on to where its strings end. -/
theorem list_cons (body : Text) :
    list (.char '[' :: body) = (symbol (.char ']') (behindStrings body)).map fun ((), rest) =>
      ((.char '[' :: body).take ((.char '[' :: body).length - rest.length), rest) := by
  simp only [list, skip_cons (c := .char '[') ⟨by decide, by decide⟩,
    symbol_self (c := .char '[') ⟨by decide, by decide⟩, Option.bind_some]
  rfl

/-- A list is read if a bracket closes it behind its strings. -/
theorem list_of_behindStrings {body g t : Text} (hg : Gap g)
    (h : behindStrings body = g ++ .char ']' :: t) :
    list (.char '[' :: body) =
      some ((.char '[' :: body).take ((.char '[' :: body).length - t.length), t) := by
  rw [list_cons, h, symbol_gap hg, symbol_self ⟨by decide, by decide⟩, Option.map_some]

/-- A list ends at its bracket, and what is read is the list as it is written. -/
theorem list_bracketed {ss : List Text} {v : Text} (h : Bracketed Spaces ss v)
    (hq : ∀ s ∈ ss, Quoted s) (hn : .char '\n' ∉ v) (hr : .char '\r' ∉ v) (t : Text) :
    list (v ++ t) = some (v, t) := by
  have htake : (v ++ t).take ((v ++ t).length - t.length) = v := by simp
  cases h with
  | @empty g hg =>
    have hbehind : behindStrings (g ++ .char ']' :: t) = g ++ .char ']' :: t := by
      rw [behindStrings, string_gap hg.gap, string, skip_cons ⟨by decide, by decide⟩]
      rfl
    rw [List.cons_append, List.append_assoc, List.singleton_append] at htake ⊢
    rw [list_of_behindStrings hg.gap hbehind, htake]
  | @elements g e ss hg he =>
    simp only [List.mem_cons, List.mem_append, not_or] at hn hr
    obtain ⟨s, rest, hs, -, hrest⟩ := furtherStrings_elements he hq hn.2.2.1 hr.2.2.1 t
    obtain ⟨g', hg', hend⟩ := hrest rest.length (Nat.le_refl _)
    have hbehind : behindStrings (g ++ (e ++ .char ']' :: t)) = g' ++ .char ']' :: t := by
      rw [behindStrings, string_gap hg.gap, hs]
      exact hend
    rw [List.cons_append, List.append_assoc, List.append_assoc, List.singleton_append] at htake ⊢
    rw [list_of_behindStrings hg' hbehind, htake]

/-- **A value is read** as it is written, up to what stands behind it. -/
theorem value_isValue {v : Text} (h : IsValue v) (hi : Inline v) (t : Text) :
    value (v ++ t) = some (v, t) := by
  obtain ⟨-, hn, hr⟩ := hi
  cases h with
  | string h =>
    have hlist : list (v ++ t) = none := by
      obtain ⟨q, u, rfl, hq⟩ := h.starts
      have hsq : Starts q ∧ q ≠ .char '[' := by
        simp only [List.mem_cons, List.not_mem_nil, or_false] at hq
        rcases hq with rfl | rfl | rfl <;> exact ⟨⟨by decide, by decide⟩, by decide⟩
      rw [List.cons_append]
      simp only [list, skip_cons hsq.1, symbol_of_ne hsq.1 hsq.2, Option.bind_none]
    simp only [value, hlist, string_quoted h hn hr]
  | list hq h => simp only [value, list_bracketed h hq hn hr]

/-! ## Names and the keyword -/

/-- The next token of a layout, between a gap and the rest of the layout. -/
theorem Laid.uncons {tok : Token} {ts : List Token} {t : Text} (h : Laid (tok :: ts) t) :
    ∃ g rest, Gap g ∧ t = g ++ (tok.text ++ rest) ∧ Laid ts rest ∧
      (tok.isKeyword = true → ∃ c u, rest = c :: u ∧ c ∈ [.char ' ', .char '\n', .char '#']) := by
  cases h with
  | @cons _ _ g g' t hg hg' hk ht =>
    refine ⟨g, g' ++ t, hg, rfl, ht.gap_append hg', fun hw => ?_⟩
    obtain ⟨c, u, rfl, hc⟩ := hg'.eq_nil_or_cons.resolve_left (hk hw)
    exact ⟨c, u ++ t, rfl, hc⟩

/-- The symbols of a header begin a token, and none of them is part of a name. -/
theorem starts_of_symbol {c : Char} (h : (Token.symbol c).Valid) :
    Starts (.char c) ∧ isNamePart (.char c) = false := by
  simp only [Token.Valid, List.mem_cons, List.not_mem_nil, or_false] at h
  rcases h with rfl | rfl | rfl <;> exact ⟨⟨by decide, by decide⟩, by decide⟩

/-- A symbol is read where it has been laid out. -/
theorem symbol_laid {c : Char} {ts : List Token} {t : Text} (hc : (Token.symbol c).Valid)
    (h : Laid (.symbol c :: ts) t) : ∃ rest, symbol c t = some ((), rest) ∧ Laid ts rest := by
  obtain ⟨g, rest, hg, rfl, hrest, -⟩ := h.uncons
  refine ⟨rest, ?_, hrest⟩
  rw [symbol_gap hg]
  exact symbol_self (starts_of_symbol hc).1 rest

/-- In front of a symbol no name goes on. -/
theorem Laid.symbol_head {c : Char} {ts : List Token} {t : Text} (hc : (Token.symbol c).Valid)
    (h : Laid (.symbol c :: ts) t) : ∃ d u, t = d :: u ∧
      (d ∈ [.char ' ', .char '\n', .char '#'] ∨ d = .char c) ∧ isNamePart d = false := by
  obtain ⟨g, rest, hg, rfl, -, -⟩ := h.uncons
  rcases hg.eq_nil_or_cons with rfl | ⟨d, u, rfl, hd⟩
  · exact ⟨.char c, rest, rfl, .inr rfl, (starts_of_symbol hc).2⟩
  · refine ⟨d, _, rfl, .inl hd, ?_⟩
    simp only [List.mem_cons, List.not_mem_nil, or_false] at hd
    rcases hd with rfl | rfl | rfl <;> decide

/-- A name ends where no further code point of a name follows. -/
theorem name_append {n : Text} (hn : IsName n) {d : CodePoint}
    (hd : isNamePart d = false) (u : Text) :
    name (n ++ d :: u) = some (n, d :: u) := by
  obtain ⟨hne, hn⟩ := hn
  cases n with
  | nil => exact absurd rfl hne
  | cons c n =>
    have hskip : skip (c :: n ++ d :: u) = c :: n ++ d :: u :=
      skip_cons (starts_of_isNamePart (hn c List.mem_cons_self)) _
    have htake : (c :: n ++ d :: u).takeWhile isNamePart = c :: n := by
      rw [List.takeWhile_append_of_pos hn, List.takeWhile_cons_of_neg (by simp [hd]),
        List.append_nil]
    have hdrop : (c :: n ++ d :: u).dropWhile isNamePart = d :: u := by
      rw [List.dropWhile_append_of_pos hn, List.dropWhile_cons_of_neg (by simp [hd])]
    simp only [name, hskip, htake, hdrop]

/-- A name is read where it has been laid out in front of a symbol. -/
theorem name_laid {n : Text} {c : Char} {ts : List Token} {t : Text} (hn : IsName n)
    (hc : (Token.symbol c).Valid) (h : Laid (.name n :: .symbol c :: ts) t) :
    ∃ rest, name t = some (n, rest) ∧ Laid (.symbol c :: ts) rest := by
  obtain ⟨g, rest, hg, rfl, hrest, -⟩ := h.uncons
  obtain ⟨d, u, rfl, -, hd⟩ := hrest.symbol_head hc
  exact ⟨d :: u, (name_gap hg _).trans (name_append hn hd u), hrest⟩

theorem name_laid_symbol {c : Char} {ts : List Token} {t : Text} (hc : (Token.symbol c).Valid)
    (h : Laid (.symbol c :: ts) t) : name t = none := by
  obtain ⟨g, rest, hg, rfl, -, -⟩ := h.uncons
  rw [name_gap hg, Token.text, List.singleton_append, name, skip_cons (starts_of_symbol hc).1]
  simp [(starts_of_symbol hc).2]

/-- A value is read where it has been laid out. -/
theorem value_laid {v : Text} {ts : List Token} {t : Text} (hv : (Token.value v).Valid)
    (h : Laid (.value v :: ts) t) : ∃ rest, value t = some (v, rest) ∧ Laid ts rest := by
  obtain ⟨g, rest, hg, rfl, hrest, -⟩ := h.uncons
  exact ⟨rest, (value_gap hg _).trans (value_isValue hv.1 hv.2 rest), hrest⟩

theorem keyword_append {w : Text} (hw : IsKeyword w) {c : CodePoint} (hc : isKeywordPart c = false)
    (u : Text) : keyword (w ++ c :: u) = some ((), c :: u) := by
  have hstarts : ∀ d ∈ w, Starts d := fun d hd => starts_of_isNamePart (hw.all_nameParts d hd)
  cases hw with
  | @cons f _ _ _ hf hw => cases hw with
  | @cons i _ _ _ hi hw => cases hw with
  | @cons e _ _ _ he hw => cases hw with
  | @cons l _ _ _ hl hw => cases hw with
  | @cons d _ _ _ hd hw =>
    cases hw
    have hskip : skip ([f, i, e, l, d] ++ c :: u) = f :: i :: e :: l :: d :: c :: u :=
      skip_cons (hstarts f List.mem_cons_self) _
    have hletter : ∀ {x : CodePoint} {lower : Char}, x = .char lower ∨ x = .char lower.toUpper →
        isLetter x lower lower.toUpper := by
      rintro x lower (rfl | rfl) <;> simp [isLetter]
    have hword : isLetter f 'f' 'F' && isLetter i 'i' 'I' && isLetter e 'e' 'E' &&
        isLetter l 'l' 'L' && isLetter d 'd' 'D' := by
      simp only [Bool.and_eq_true]
      exact ⟨⟨⟨⟨hletter hf, hletter hi⟩, hletter he⟩, hletter hl⟩, hletter hd⟩
    simp only [keyword, hskip, hword, List.head?_cons, Option.any_some, hc, Bool.not_false,
      Bool.and_self, if_true]

/-- The keyword is read where it has been laid out, since a gap comes behind it. -/
theorem keyword_laid {w : Text} {ts : List Token} {t : Text} (hw : IsKeyword w)
    (h : Laid (.keyword w :: ts) t) : ∃ rest, keyword t = some ((), rest) ∧ Laid ts rest := by
  obtain ⟨g, rest, hg, rfl, hrest, hhead⟩ := h.uncons
  obtain ⟨c, u, rfl, hc⟩ := hhead rfl
  refine ⟨c :: u, ?_, hrest⟩
  rw [keyword_gap hg]
  refine keyword_append hw ?_ u
  simp only [List.mem_cons, List.not_mem_nil, or_false] at hc
  rcases hc with rfl | rfl | rfl <;> decide

/-! ## Options -/

/-- An option is read token by token. -/
theorem option_laid {a : Text × Text} {ts : List Token} {t : Text}
    (hv : ∀ tok ∈ assignment a, tok.Valid) (h : Laid (assignment a ++ ts) t) :
    ∃ rest, option t = some (a, rest) ∧ Laid ts rest := by
  obtain ⟨k, v⟩ := a
  have hname : (Token.name k).Valid := hv _ (by simp [assignment])
  have hsymbol : (Token.symbol '=').Valid := hv _ (by simp [assignment])
  have hvalue : (Token.value v).Valid := hv _ (by simp [assignment])
  obtain ⟨t₁, h₁, l₁⟩ := name_laid hname hsymbol h
  obtain ⟨t₂, h₂, l₂⟩ := symbol_laid hsymbol l₁
  obtain ⟨t₃, h₃, l₃⟩ := value_laid hvalue l₂
  exact ⟨t₃, by simp [option, h₁, h₂, h₃], l₃⟩

theorem option_laid_symbol {c : Char} {ts : List Token} {t : Text} (hc : (Token.symbol c).Valid)
    (h : Laid (.symbol c :: ts) t) : option t = none := by
  simp [option, name_laid_symbol hc h]

/-- The options of a field are read up to the brace behind them. -/
theorem options_laid {attributes : List (Text × Text)} {ts : List Token}
    (hv : ∀ tok ∈ attributes.flatMap assignment, tok.Valid) {n : Nat} (hn : attributes.length ≤ n)
    {t : Text} (h : Laid (attributes.flatMap assignment ++ .symbol '\x7d' :: ts) t) :
    ∃ rest, options n t = (attributes, rest) ∧ Laid (.symbol '\x7d' :: ts) rest := by
  induction attributes generalizing n t with
  | nil =>
    refine ⟨t, ?_, h⟩
    cases n with
    | zero => rfl
    | succ n => rw [options, option_laid_symbol (by simp [Token.Valid]) h]
  | cons a attributes ih =>
    obtain ⟨n, rfl⟩ := Nat.exists_eq_succ_of_ne_zero
      (Nat.ne_of_gt (Nat.lt_of_lt_of_le (by simp) hn))
    rw [List.flatMap_cons, List.append_assoc] at h
    rw [List.flatMap_cons, List.forall_mem_append] at hv
    obtain ⟨t₁, h₁, l₁⟩ := option_laid hv.1 h
    obtain ⟨rest, h₂, l₂⟩ := ih hv.2 (Nat.le_of_succ_le_succ hn) l₁
    exact ⟨rest, by simp only [options, h₁, h₂], l₂⟩

/-! ## Fields and items -/

theorem length_le_assignments (attributes : List (Text × Text)) :
    attributes.length ≤ (attributes.flatMap assignment).length := by
  induction attributes with
  | nil => exact Nat.zero_le _
  | cons a attributes ih =>
    simp only [List.flatMap_cons, List.length_append, List.length_cons, assignment]
    omega

/-- A field is read token by token, and its options by induction on them. -/
theorem field_laid {w n : Text} {attributes : List (Text × Text)} {ts : List Token} {t : Text}
    (hv : ∀ tok ∈ (.keyword w :: .name n :: .symbol '\x7b' ::
      (attributes.flatMap assignment ++ .symbol '\x7d' :: ts) : List Token), tok.Valid)
    (h : Laid (.keyword w :: .name n :: .symbol '\x7b' ::
      (attributes.flatMap assignment ++ .symbol '\x7d' :: ts)) t) :
    ∃ rest, field t = some ((n, attributes), rest) ∧ Laid ts rest := by
  obtain ⟨hw, hv⟩ := List.forall_mem_cons.mp hv
  obtain ⟨hn, hv⟩ := List.forall_mem_cons.mp hv
  obtain ⟨ho, hv⟩ := List.forall_mem_cons.mp hv
  obtain ⟨t₁, h₁, l₁⟩ := keyword_laid hw h
  obtain ⟨t₂, h₂, l₂⟩ := name_laid hn ho l₁
  obtain ⟨t₃, h₃, l₃⟩ := symbol_laid ho l₂
  have hlength : attributes.length ≤ t₃.length := by
    have hle := l₃.length_le hv
    rw [List.length_append] at hle
    exact Nat.le_trans (length_le_assignments attributes) (Nat.le_trans (Nat.le_add_right _ _) hle)
  have ha := (List.forall_mem_append.mp hv).1
  obtain ⟨t₄, h₄, l₄⟩ := options_laid ha hlength l₃
  obtain ⟨t₅, h₅, l₅⟩ := symbol_laid (by simp [Token.Valid]) l₄
  exact ⟨t₅, by simp [field, h₁, h₂, h₃, h₄, h₅], l₅⟩

/-- What is read as the keyword is five code points, each of which a name could contain or is the
letter i without a dot. -/
theorem keyword_eq_some {t rest : Text} (h : keyword t = some ((), rest)) :
    ∃ w, w.length = 5 ∧ skip t = w ++ rest ∧ ∀ c ∈ w, isNamePart c ∨ c = .char 'ı' := by
  simp only [keyword] at h
  split at h
  · next f i e l d rest' hskip =>
    split at h
    · next hword =>
      obtain ⟨rfl⟩ : rest' = rest := by simpa using h
      have hletter : ∀ {c : CodePoint} {lower upper : Char}, isLetter c lower upper →
          isNamePart (.char lower) ∧ isNamePart (.char upper) → isNamePart c ∨ c = .char 'ı' := by
        intro c lower upper hc hl
        simp only [isLetter, Bool.or_eq_true, Bool.and_eq_true, beq_iff_eq] at hc
        rcases hc with (rfl | rfl) | ⟨-, rfl⟩
        · exact .inl hl.1
        · exact .inl hl.2
        · exact .inr rfl
      simp only [Bool.and_eq_true] at hword
      obtain ⟨⟨⟨⟨⟨hf, hi⟩, he⟩, hl⟩, hd⟩, -⟩ := hword
      refine ⟨[f, i, e, l, d], rfl, hskip, ?_⟩
      simp only [List.forall_mem_cons]
      exact ⟨hletter hf (by decide), hletter hi (by decide), hletter he (by decide),
        hletter hl (by decide), hletter hd (by decide), List.forall_mem_nil _⟩
    · simp at h
  · simp at h

/-- What a name is read as: the code points of the name, as many as there are. -/
theorem name_eq_some_iff {t n rest : Text} : name t = some (n, rest) ↔
    IsName n ∧ skip t = n ++ rest ∧ ∀ c ∈ rest.head?, isNamePart c = false := by
  constructor
  · intro h
    simp only [name] at h
    split at h
    · cases h
    · next u hu =>
      obtain ⟨rfl, rfl⟩ := Prod.mk.inj (Option.some.inj h)
      refine ⟨⟨hu, fun c hc => List.mem_takeWhile_imp hc⟩,
        List.takeWhile_append_dropWhile.symm, fun c hc => ?_⟩
      have hhead := List.head?_dropWhile_not isNamePart (skip t)
      rw [Option.mem_def.mp hc] at hhead
      exact hhead
  · rintro ⟨⟨hne, hn⟩, hskip, hrest⟩
    have hnone : rest.takeWhile isNamePart = [] ∧ rest.dropWhile isNamePart = rest := by
      cases rest with
      | nil => exact ⟨rfl, rfl⟩
      | cons c rest =>
        have hc := hrest c rfl
        exact ⟨List.takeWhile_cons_of_neg (by simp [hc]), List.dropWhile_cons_of_neg (by simp [hc])⟩
    have htake : (n ++ rest).takeWhile isNamePart = n := by
      rw [List.takeWhile_append_of_pos hn, hnone.1, List.append_nil]
    have hdrop : (n ++ rest).dropWhile isNamePart = rest := by
      rw [List.dropWhile_append_of_pos hn, hnone.2]
    simp only [name, hskip, htake, hdrop]

theorem skip_of_symbol {c : CodePoint} {t rest : Text} (h : symbol c t = some ((), rest)) :
    skip t = c :: rest := by
  simp only [symbol] at h
  split at h
  · cases h
  · next d u hskip =>
    split at h
    · next hd =>
      obtain rfl : u = rest := by simpa using h
      rw [hskip, hd]
    · cases h

/-- An option is not a field, even if its name begins with the keyword: no opening brace follows. -/
theorem field_of_equals {t k t₁ t₂ : Text} (hk : name t = some (k, t₁))
    (heq : symbol '=' t₁ = some ((), t₂)) : field t = none := by
  obtain ⟨hname, hskip, hhead⟩ := name_eq_some_iff.mp hk
  have hequals := skip_of_symbol heq
  cases hkw : keyword t with
  | none => simp [field, hkw]
  | some r =>
    obtain ⟨⟨⟩, rest⟩ := r
    obtain ⟨w, -, hw, hparts⟩ := keyword_eq_some hkw
    -- The keyword ends within the name, since neither a gap nor the equals sign can be a part of
    -- it.
    obtain ⟨k', rfl, hk'⟩ : ∃ k', rest = k' ++ t₁ ∧ ∀ c ∈ k', isNamePart c := by
      rcases List.append_eq_append_iff.mp (hskip.symm.trans hw) with ⟨w', rfl, ht₁⟩ | ⟨k', rfl, rfl⟩
      · cases w' with
        | nil => exact ⟨[], ht₁.symm, List.forall_mem_nil _⟩
        | cons c w' =>
          rw [ht₁] at hhead
          rcases hparts c (by simp) with hp | rfl
          · exact absurd hp (by simp [hhead c rfl])
          · rw [ht₁, List.cons_append, skip_cons ⟨by decide, by decide⟩] at hequals
            exact absurd (List.cons.inj hequals).1 (by decide)
      · exact ⟨k', rfl, fun c hc => hname.2 c (List.mem_append_right _ hc)⟩
    by_cases hne : k' = []
    · have hnone : name t₁ = none := by
        simp only [name, hequals, List.takeWhile_cons_of_neg (by decide : ¬ isNamePart '=' = true)]
      simp [field, hkw, hne, hnone]
    · have hrest : name (k' ++ t₁) = some (k', t₁) := by
        obtain ⟨c, k', rfl⟩ := List.exists_cons_of_ne_nil hne
        exact name_eq_some_iff.mpr
          ⟨⟨hne, hk'⟩, skip_cons (starts_of_isNamePart (hk' c List.mem_cons_self)) _, hhead⟩
      have hbrace : symbol '\x7b' t₁ = none := by
        simp only [symbol, hequals]
        rfl
      simp [field, hkw, hrest, hbrace]

/-- What begins with a name and a sign of equality is no field. -/
theorem field_laid_option {k : Text} {ts : List Token} {t : Text} (hk : IsName k)
    (h : Laid (.name k :: .symbol '=' :: ts) t) : field t = none := by
  have heq : (Token.symbol '=').Valid := by simp [Token.Valid]
  obtain ⟨rest, hname, hrest⟩ := name_laid hk heq h
  obtain ⟨rest', hsymbol, -⟩ := symbol_laid heq hrest
  exact field_of_equals hname hsymbol

theorem item_laid_nil {t : Text} (h : Laid [] t) : item t = none := by
  cases h with
  | nil hg =>
    simp [item, field, option, keyword, name, skip_of_gap hg]

theorem Spells.length_le {is : List Item} {ts : List Token} (h : Spells is ts) :
    is.length ≤ ts.length := by
  induction h with
  | nil => exact Nat.le_refl _
  | option _ ih =>
    simp only [assignment, List.length_append, List.length_cons]
    omega
  | field _ ih =>
    simp only [List.length_append, List.length_cons]
    omega

/-- The items of a written header are read, and nothing but a gap is left. -/
theorem items_laid {is : List Item} {ts : List Token} (hs : Spells is ts)
    (hv : ∀ tok ∈ ts, tok.Valid) {n : Nat} (hn : is.length ≤ n) {t : Text} (h : Laid ts t) :
    ∃ rest, items n t = (is, rest) ∧ Laid [] rest := by
  induction hs generalizing n t with
  | nil =>
    refine ⟨t, ?_, h⟩
    cases n with
    | zero => rfl
    | succ n => rw [items, item_laid_nil h]
  | @option k v is ts _ ih =>
    obtain ⟨n, rfl⟩ := Nat.exists_eq_succ_of_ne_zero
      (Nat.ne_of_gt (Nat.lt_of_lt_of_le (by simp) hn))
    obtain ⟨ha, hv⟩ := List.forall_mem_append.mp hv
    obtain ⟨t₁, h₁, l₁⟩ := option_laid ha h
    obtain ⟨rest, h₂, l₂⟩ := ih hv (Nat.le_of_succ_le_succ hn) l₁
    have hfield : field t = none := field_laid_option (ha _ List.mem_cons_self) h
    exact ⟨rest, by simp only [items, item, hfield, h₁, h₂, Option.map_some], l₂⟩
  | @field w name attributes is ts _ ih =>
    obtain ⟨n, rfl⟩ := Nat.exists_eq_succ_of_ne_zero
      (Nat.ne_of_gt (Nat.lt_of_lt_of_le (by simp) hn))
    obtain ⟨t₁, h₁, l₁⟩ := field_laid hv h
    obtain ⟨rest, h₂, l₂⟩ := ih
      (fun tok htok => hv tok (by simp [htok])) (Nat.le_of_succ_le_succ hn) l₁
    exact ⟨rest, by simp only [items, item, h₁, h₂], l₂⟩

/-- Reading a written header gives the items that were written, whatever the layout. -/
theorem parse_of_writes {is : List Item} {t : Text} (h : Writes is t) : parse t = .ok is := by
  obtain ⟨ts, hs, hv, hl⟩ := h
  have hl := hl.expandTabs hv 0
  obtain ⟨rest, hitems, hrest⟩ := items_laid hs hv (Nat.le_trans hs.length_le (hl.length_le hv)) hl
  have hskip : skip rest = [] := by
    cases hrest with
    | nil hg => exact skip_of_gap hg
  simp only [parse, Text.expandTabs, hitems, hskip]

end LineSift.Header
