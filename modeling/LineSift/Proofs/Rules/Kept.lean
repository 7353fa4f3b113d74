import LineSift.Proofs.Rules.Document
import LineSift.Proofs.Rules.Recognised
import LineSift.Proofs.Value.Bracketed

/-!
# The values that a document keeps

Every value of a document was read at some place of the header (`exists_readAt`), and it is kept as
it was read.  For a list without comments the strings that were read there are the elements of the
list when it is unquoted, provided that in single quotes every backslash has its partner
(`unquoteList_of_mem_written`).  Both conditions are needed: a comment becomes a part of the element
behind it (`comment_in_element`), and two backslashes before a quote are one backslash and a
protected quote to the reader of the header, but a protected backslash and the end of the string
when the list is split (`backslashes_before_quote`).
-/

namespace LineSift

namespace Header

/-! ## Where values are read -/

/-- Whether a value is read at some place of a text. -/
def ReadAt (t v : Text) : Prop := ∃ u rest, u <:+ t ∧ value u = some (v, rest)

theorem ReadAt.of_suffix {t t' v : Text} (h : ReadAt t' v) (ht : t' <:+ t) : ReadAt t v := by
  obtain ⟨u, rest, hu, hv⟩ := h
  exact ⟨u, rest, hu.trans ht, hv⟩

theorem skip_suffix (t : Text) : skip t <:+ t := by
  obtain ⟨g, -, ht⟩ := exists_skip t
  exact ⟨g, ht.symm⟩

theorem name_suffix {t n rest : Text} (h : name t = some (n, rest)) : rest <:+ t := by
  simp only [name] at h
  split at h
  · cases h
  · obtain ⟨-, rfl⟩ := Prod.mk.inj (Option.some.inj h)
    exact (List.dropWhile_suffix _).trans (skip_suffix t)

theorem symbol_suffix {c : CodePoint} {t rest : Text} (h : symbol c t = some ((), rest)) :
    rest <:+ t := by
  obtain ⟨g, -, rfl⟩ := symbol_eq_some h
  exact (List.suffix_cons c rest).trans (List.suffix_append g _)

theorem keyword_suffix {t rest : Text} (h : keyword t = some ((), rest)) : rest <:+ t := by
  obtain ⟨w, -, hw, -⟩ := keyword_eq_some h
  exact (List.suffix_append w rest).trans (hw ▸ skip_suffix t)

theorem value_eq_some {t v rest : Text} (h : value t = some (v, rest)) :
    (list t = some (v, rest) ∨ string t = some (v, rest)) := by
  simp only [value] at h
  split at h
  · next r hr => exact .inl (hr.trans h)
  · exact .inr h

theorem value_suffix {t v rest : Text} (h : value t = some (v, rest)) : rest <:+ t := by
  obtain ⟨g, rfl⟩ : ∃ g, t = g ++ (v ++ rest) := by
    rcases value_eq_some h with h | h
    · obtain ⟨-, -, -, -, g, -, ht⟩ := list_eq_some h
      exact ⟨g, ht⟩
    · obtain ⟨-, g, -, ht⟩ := string_eq_some h
      exact ⟨g, ht⟩
  exact (List.suffix_append v rest).trans (List.suffix_append g _)

theorem option_readAt {t rest : Text} {a : Text × Text} (h : option t = some (a, rest)) :
    rest <:+ t ∧ ReadAt t a.2 := by
  obtain ⟨t₁, t₂, h₁, h₂, h₃⟩ := option_eq_some h
  have hsuffix : t₂ <:+ t := (symbol_suffix h₂).trans (name_suffix h₁)
  exact ⟨(value_suffix h₃).trans hsuffix, t₂, _, hsuffix, h₃⟩

theorem options_readAt (n : Nat) (t : Text) :
    (options n t).2 <:+ t ∧ ∀ a ∈ (options n t).1, ReadAt t a.2 := by
  fun_induction options n t with
  | case1 t => exact ⟨List.suffix_refl t, List.forall_mem_nil _⟩
  | case2 n t a rest h os rest' hos ih =>
    obtain ⟨hrest, ha⟩ := option_readAt h
    rw [hos] at ih
    exact ⟨ih.1.trans hrest, List.forall_mem_cons.mpr ⟨ha, fun b hb => (ih.2 b hb).of_suffix hrest⟩⟩
  | case3 n t => exact ⟨List.suffix_refl t, List.forall_mem_nil _⟩

theorem field_readAt {t n rest : Text} {attributes : List (Text × Text)}
    (h : field t = some ((n, attributes), rest)) :
    rest <:+ t ∧ ∀ a ∈ attributes, ReadAt t a.2 := by
  obtain ⟨t₁, t₂, t₃, h₁, h₂, h₃, rfl, h₄⟩ := field_eq_some h
  have hsuffix : t₃ <:+ t :=
    (symbol_suffix h₃).trans ((name_suffix h₂).trans (keyword_suffix h₁))
  obtain ⟨hrest, hread⟩ := options_readAt t₃.length t₃
  exact ⟨(symbol_suffix h₄).trans (hrest.trans hsuffix), fun a ha => (hread a ha).of_suffix hsuffix⟩

/-- The values of an item. -/
def Item.values : Item → List Text
  | option _ value => [value]
  | field _ attributes => attributes.map (·.2)

theorem item_readAt {t rest : Text} {i : Item} (h : item t = some (i, rest)) :
    rest <:+ t ∧ ∀ v ∈ i.values, ReadAt t v := by
  rcases item_eq_some h with ⟨n, attributes, rfl, hfield⟩ | ⟨k, v, rfl, -, hoption⟩
  · obtain ⟨hrest, hread⟩ := field_readAt hfield
    exact ⟨hrest, List.forall_mem_map.mpr hread⟩
  · obtain ⟨hrest, hread⟩ := option_readAt hoption
    exact ⟨hrest, List.forall_mem_singleton.mpr hread⟩

theorem items_readAt (n : Nat) (t : Text) : ∀ i ∈ (items n t).1, ∀ v ∈ i.values, ReadAt t v := by
  fun_induction items n t with
  | case1 t => exact List.forall_mem_nil _
  | case2 n t i rest h is rest' his ih =>
    obtain ⟨hrest, hi⟩ := item_readAt h
    rw [his] at ih
    exact List.forall_mem_cons.mpr ⟨hi, fun j hj v hv => (ih j hj v hv).of_suffix hrest⟩
  | case3 n t => exact List.forall_mem_nil _

theorem parse_readAt {header : Text} {is : List Item} (h : parse header = .ok is) :
    ∀ i ∈ is, ∀ v ∈ i.values, ReadAt header.expandTabs v := by
  simp only [parse] at h
  split at h
  · cases h
    exact items_readAt _ _
  · cases h

theorem strip_of_readAt {t v : Text} (h : ReadAt t v) : Text.strip v = v := by
  obtain ⟨u, rest, -, hv⟩ := h
  obtain ⟨o, b, e, rfl, ho, he⟩ : ∃ (o : CodePoint) (b : Text) (e : CodePoint),
      v = o :: (b ++ [e]) ∧
      o.isSpace = false ∧ e.isSpace = false := by
    rcases value_eq_some hv with h | h
    · obtain ⟨ss, -, -, hlist, -⟩ := list_eq_some h
      obtain ⟨b, rfl⟩ := hlist.exists_body
      exact ⟨_, b, _, rfl, by decide, by decide⟩
    · obtain ⟨hs, -⟩ := string_eq_some h
      cases hs <;> exact ⟨_, _, _, rfl, by decide, by decide⟩
  exact Text.strip_enclosed ho he b

theorem list_of_readAt {t v : Text} (h : ReadAt t v) (hv : v.head? = some (.char '[')) :
    ∃ u rest, u <:+ t ∧ list u = some (v, rest) := by
  obtain ⟨u, rest, hu, hread⟩ := h
  rcases value_eq_some hread with h | h
  · exact ⟨u, rest, hu, h⟩
  · obtain ⟨hs, -⟩ := string_eq_some h
    cases hs <;> exact absurd hv (by simp)

/-! ## Lists without comments -/

/-- Whether a list with given strings has no comments: every number sign stands in one of the
strings. -/
def Uncommented (ss : List Text) (v : Text) : Prop :=
  v.count (.char '#') = ss.flatten.count (.char '#')

/-- Whether a string, if it is in single quotes, is made of backslash pairs and of code points that
are neither the quote nor a backslash. -/
def Paired (s : Text) : Prop :=
  ∀ b, s = .char '\'' :: (b ++ [.char '\'']) → PairedBody (.char '\'') b

theorem IsString.whole {s : Text} (h : IsString s) (hp : Paired s) : Value.Whole s := by
  refine Value.Delimited.whole ?_
  cases h with
  | double hb => exact .paired (.inl rfl) hb
  | single => exact .paired (.inr rfl) (hp _ rfl)
  | raw hb => exact .raw hb

theorem Passed.blank {g : Text} (h : Passed g) (hg : g.count (.char '#') = 0) : Text.White g :=
  fun c hc => CodePoint.isSpace_of_isLayout (h (List.count_eq_zero.mp hg) c hc)

/-- The strings have at most the number signs of the list; if they have all of them, then what
stands around the commas is white space. -/
theorem Elements.count_le {ss : List Text} {e : Text} (h : Elements Passed ss e) :
    ss.flatten.count (.char '#') ≤ e.count (.char '#') ∧
      (Uncommented ss e → Elements Text.White ss e) := by
  induction h with
  | @last s g hg =>
    rw [Uncommented, List.flatten_singleton, List.count_append]
    exact ⟨Nat.le_add_right _ _, fun h => .last (hg.blank (by omega))⟩
  | @more s g g' e ss hg hg' _ ih =>
    obtain ⟨hle, hblank⟩ := ih
    have hcomma : (CodePoint.char ',' :: (g' ++ e)).count (.char '#') =
        g'.count (.char '#') + e.count (.char '#') := by
      rw [List.count_cons_of_ne (by decide), List.count_append]
    rw [Uncommented, List.flatten_cons, List.count_append, List.count_append, List.count_append,
      hcomma]
    refine ⟨by omega, fun h => .more (hg.blank (by omega)) (hg'.blank (by omega)) (hblank ?_)⟩
    rw [Uncommented]
    omega

theorem Bracketed.blank {ss : List Text} {v : Text} (h : Bracketed Passed ss v)
    (hn : Uncommented ss v) : Bracketed Text.White ss v := by
  cases h with
  | @empty g hg =>
    refine .empty (hg.blank ?_)
    simpa [Uncommented, List.count_append, List.count_cons] using hn
  | @elements g e ss hg he =>
    obtain ⟨hle, hblank⟩ := he.count_le
    have hcount : (CodePoint.char '[' :: (g ++ (e ++ [CodePoint.char ']']))).count (.char '#') =
        g.count (.char '#') + e.count (.char '#') := by
      rw [List.count_cons_of_ne (by decide), List.count_append, List.count_append]
      rfl
    rw [Uncommented, hcount] at hn
    refine .elements (hg.blank (by omega)) (hblank ?_)
    rw [Uncommented]
    omega

end Header

namespace Document

open Header (Item ReadAt)

/-- The values of a document, as they are written. -/
def written (d : Document) : List Text :=
  d.options.map (·.2) ++ d.fields.flatMap fun f => f.2.map (·.2)

theorem mem_written {d : Document} {w : Text} :
    w ∈ d.written ↔ (∃ p ∈ d.options, p.2 = w) ∨ ∃ f ∈ d.fields, ∃ p ∈ f.2, p.2 = w := by
  simp only [written, List.mem_append, List.mem_map, List.mem_flatMap]

theorem mem_written_add {d : Document} {i : Item} {w : Text} (h : w ∈ (d.add i).written) :
    w ∈ d.written ∨ ∃ v ∈ i.values, w = Text.strip v := by
  rw [mem_written] at h ⊢
  cases i with
  | option key value =>
    rcases h with ⟨p, hp, rfl⟩ | hfields
    · rcases Assoc.mem_put hp with hp | hp
      · exact .inl (.inl ⟨p, hp, rfl⟩)
      · exact .inr ⟨value, List.mem_singleton_self _, hp⟩
    · exact .inl (.inr hfields)
  | field name attributes =>
    rcases h with hoptions | ⟨f, hf, p, hp, rfl⟩
    · exact .inl (.inl hoptions)
    · rcases Assoc.mem_put hf with hf | hf
      · exact .inl (.inr ⟨f, hf, p, hp, rfl⟩)
      · rw [hf] at hp
        obtain ⟨q, hq, hqp⟩ := Assoc.mem_ofList hp
        obtain ⟨a, ha, rfl⟩ := List.mem_map.mp hq
        exact .inr ⟨a.2, List.mem_map_of_mem ha, hqp.symm⟩

theorem mem_written_foldl {is : List Item} {d : Document} {w : Text}
    (h : w ∈ (is.foldl add d).written) :
    w ∈ d.written ∨ ∃ i ∈ is, ∃ v ∈ i.values, w = Text.strip v := by
  induction is generalizing d with
  | nil => exact .inl h
  | cons i is ih =>
    rcases ih h with h | ⟨j, hj, hw⟩
    · exact (mem_written_add h).imp_right fun hw => ⟨i, List.mem_cons_self, hw⟩
    · exact .inr ⟨j, List.mem_cons_of_mem _ hj, hw⟩

/-- The text in which the header of a rules file is read: the lines before the first separator,
without tabs. -/
def headerText (text : Text) : Text :=
  (Text.join [.char '\n'] (cutAtSeparator text.lines).1).expandTabs

/-- Every value that a document keeps was read in the header, just as it is kept. -/
theorem exists_readAt {text : Text} {d : Document} (h : parse text = .ok d) {w : Text}
    (hw : w ∈ d.written) : ReadAt (headerText text) w := by
  rw [parse] at h
  cases hparse : Header.parse (Text.join [.char '\n'] (cutAtSeparator text.lines).1) with
  | error e => simp [hparse, Except.map] at h
  | ok is =>
    obtain rfl : { is.foldl add {} with
        templates := entries (cutAtSeparator (cutAtSeparator text.lines).2).1
        samples := entries (cutAtSeparator (cutAtSeparator text.lines).2).2 } = d := by
      simpa [hparse, Except.map] using h
    have hw' : w ∈ (is.foldl add {}).written := hw
    have hnone : w ∉ ({} : Document).written := List.not_mem_nil
    obtain ⟨i, hi, v, hv, rfl⟩ := (mem_written_foldl hw').resolve_left hnone
    have hread := Header.parse_readAt hparse i hi v hv
    rwa [Header.strip_of_readAt hread]

/-- Every list that a document keeps was read in the header, string by string.  Where a list is read
that has no comments, and whose single-quoted strings are made of backslash pairs and other code
points, unquoting the list unquotes the strings that are read. -/
theorem unquoteList_of_mem_written {text : Text} {d : Document} (h : parse text = .ok d) {v : Text}
    (hv : v ∈ d.written) (hbracket : v.head? = some (.char '[')) :
    (∃ u ss rest, u <:+ headerText text ∧ Header.list u = some (v, rest) ∧
      Header.elements u = some (ss, rest)) ∧
    ∀ u ss rest, Header.list u = some (v, rest) → Header.elements u = some (ss, rest) →
      Header.Uncommented ss v → (∀ s ∈ ss, Header.Paired s) →
        Value.unquoteList v = ss.mapM Value.unquote := by
  constructor
  · obtain ⟨u, rest, hu, hlist⟩ := Header.list_of_readAt (exists_readAt h hv) hbracket
    obtain ⟨ss, helements, -⟩ := Header.list_eq_some hlist
    exact ⟨u, ss, rest, hu, hlist, helements⟩
  · intro u ss rest hlist helements hn hp
    obtain ⟨ss', helements', hstrings, hbracketed, -⟩ := Header.list_eq_some hlist
    obtain rfl : ss' = ss := by simpa [helements'] using helements
    exact Value.unquoteList_bracketed (hbracketed.blank hn) fun s hs =>
      (hstrings s hs).whole (hp s hs)

section Examples

open Text

/-- A list over two lines, with a number sign in one of its strings. -/
theorem unquoteList_of_mem_written_lines :
    Value.unquoteList (ofString "['\\d#',\n `b` ]") =
      [ofString "'\\d#'", ofString "`b`"].mapM Value.unquote := by
  have h : parse (ofString "x = ['\\d#',\n `b` ]") =
      .ok { options := [(ofString "x", ofString "['\\d#',\n `b` ]")] } := rfl
  have hpaired : Header.Paired (ofString "'\\d#'") := by
    intro b hb
    obtain rfl : ofString "\\d#" = b := List.append_cancel_right (List.cons.inj hb).2
    exact .pair (.plain (by decide) (by decide) .nil)
  have hraw : Header.Paired (ofString "`b`") := by
    intro b hb
    exact absurd (List.cons.inj hb).1 (by decide)
  refine (unquoteList_of_mem_written h (by simp [mem_written]) (by decide)).2
    (ofString "['\\d#',\n `b` ]") _ [] rfl rfl (by unfold Header.Uncommented; decide) ?_
  exact List.forall_mem_cons.mpr ⟨hpaired, List.forall_mem_singleton.mpr hraw⟩

/-- The strings of this list can be unquoted one after the other, but a comment between them becomes
a part of the element behind it. -/
theorem comment_in_element :
    ∃ d, parse (ofString "x = ['a', # one\n 'b']") = .ok d ∧
      ofString "['a', # one\n 'b']" ∈ d.written ∧
      Header.elements (ofString "['a', # one\n 'b']") =
        some ([ofString "'a'", ofString "'b'"], []) ∧
      [ofString "'a'", ofString "'b'"].mapM Value.unquote = .ok [ofString "a", ofString "b"] ∧
      Value.unquoteList (ofString "['a', # one\n 'b']") =
        .ok [ofString "a", ofString "# one\n 'b'"] := by
  refine ⟨{ options := [(ofString "x", ofString "['a', # one\n 'b']")] }, ?_, ?_, ?_, ?_, ?_⟩
  · rfl
  · simp [mem_written]
  · rfl
  · rfl
  · have helements : Value.elements (ofString "'a', # one\n 'b'") =
        [ofString "'a'", ofString "# one\n 'b'"] := by cbv
    exact (Value.unquoteList_enclosed (ofString "'a', # one\n 'b'")).trans (by rw [helements]; rfl)

/-- The one string of this list can be unquoted, but the list is split behind the quote in it. -/
theorem backslashes_before_quote :
    ∃ d, parse (ofString "x = ['a\\\\', ']") = .ok d ∧ ofString "['a\\\\', ']" ∈ d.written ∧
      Header.elements (ofString "['a\\\\', ']") = some ([ofString "'a\\\\', '"], []) ∧
      [ofString "'a\\\\', '"].mapM Value.unquote = .ok [ofString "a\\', "] ∧
      Value.unquoteList (ofString "['a\\\\', ']") = .error (.malformed (ofString "'")) := by
  refine ⟨{ options := [(ofString "x", ofString "['a\\\\', ']")] }, ?_, ?_, ?_, ?_, ?_⟩
  · rfl
  · simp [mem_written]
  · rfl
  · rfl
  · have helements : Value.elements (ofString "'a\\\\', '") =
        [ofString "'a\\\\'", ofString "'"] := by cbv
    exact (Value.unquoteList_enclosed (ofString "'a\\\\', '")).trans (by rw [helements]; rfl)

end Examples

end Document

end LineSift
