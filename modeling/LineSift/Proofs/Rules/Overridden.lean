import Mathlib.Data.List.Dedup
import LineSift.Proofs.Rules.Compared
import LineSift.Proofs.Rules.Composed

/-!
# Fields that are overridden

A field of a header is overridden if a field of the same name stands behind it.  When its text is
overwritten by spaces (`blankOverridden`), everything else stays at its line and column and is read
as before: the spaces become a part of a gap, and the items in front of them do not depend on them
(`Overwritten.reads`).  No line becomes a separator, unless the name of an option begins with a dash
(`exists_blanked`).

The document that is left is the same but for the order of its fields.  They are in the order in
which their names stand last; in the document of the whole text they are in the order in which the
names stand first (`Blanked.exists_reordered`).
-/

namespace LineSift

namespace Header

/-! ## Overwriting -/

/-- Whether an item is a field and one of the items behind it is a field of the same name. -/
def Item.isOverridden (behind : List Item) : Item → Bool
  | .option _ _ => false
  | .field n _ => (fieldNames behind).contains n

/-- The items without the fields that are overridden by others behind them. -/
def lasting : List Item → List Item
  | [] => []
  | i :: is => if i.isOverridden is then lasting is else i :: lasting is

/-- A text of up to `n` items in which the fields that are overridden by others behind them have
been overwritten. -/
def blankItems : Nat → Text → Text
  | 0, t => t
  | n + 1, t =>
    match item t with
    | none => t
    | some (i, rest) =>
      let start := skip t
      let piece := start.take (start.length - rest.length)
      t.take (t.length - start.length) ++
        ((if i.isOverridden (items n rest).1 then blank piece else piece) ++ blankItems n rest)

/-- A text in which the fields that are overridden have been overwritten.  Everything else stays
where it is. -/
def blankOverridden (t : Text) : Text := blankItems t.length t

variable {t t' rest : Text} {is : List Item} {i : Item}

/-! ## Items and what stands before them -/

/-- A value ends with a quote or a bracket. -/
theorem value_last {v : Text} (h : value t = some (v, rest)) :
    ∃ g b e, t = g ++ (b ++ e :: rest) ∧ Solid e := by
  have hsolid {e : CodePoint} (he : e ∈ [.char ']', .char '"', .char '\'', .char '`']) :
      Solid e := by
    simp only [List.mem_cons, List.not_mem_nil, or_false] at he
    rcases he with rfl | rfl | rfl | rfl <;> exact ⟨by decide, by decide⟩
  rcases value_eq_some h with h | h
  · obtain ⟨ss, -, -, hlist, g, -, rfl⟩ := list_eq_some h
    obtain ⟨b, rfl⟩ := hlist.exists_body
    exact ⟨g, .char '[' :: b, .char ']', by simp, hsolid (by simp)⟩
  · obtain ⟨hs, g, -, rfl⟩ := string_eq_some h
    cases hs with
    | @double b _ => exact ⟨g, .char '"' :: b, .char '"', by simp, hsolid (by simp)⟩
    | @single b => exact ⟨g, .char '\'' :: b, .char '\'', by simp, hsolid (by simp)⟩
    | @raw b _ => exact ⟨g, .char '`' :: b, .char '`', by simp, hsolid (by simp)⟩

/-- The keyword begins with one of two letters. -/
theorem keyword_head {rest : Text} (h : keyword t = some ((), rest)) :
    ∃ c w, skip t = c :: (w ++ rest) ∧ Solid c := by
  simp only [keyword] at h
  split at h
  · next f i e l d rest' hskip =>
    split at h
    · next hword =>
      obtain rfl : rest' = rest := by simpa using h
      refine ⟨f, [i, e, l, d], hskip, ?_⟩
      simp only [Bool.and_eq_true, isLetter, Bool.or_eq_true, beq_iff_eq] at hword
      obtain ⟨⟨⟨⟨⟨hf | hf, -⟩, -⟩, -⟩, -⟩, -⟩ := hword
      · rcases hf with rfl | rfl <;> exact ⟨by decide, by decide⟩
      · exact absurd hf.1 (by decide)
    · cases h
  · cases h

/-- Whether the key of an option does not begin with a dash. -/
def Item.Undashed : Item → Prop
  | .option key _ => key.head? ≠ some (.char '-')
  | .field _ _ => True

/-- A piece of a text that an item can take: it ends with a solid code point, and but for an option
whose name begins with a dash it begins with one. -/
def Item.Piece (i : Item) (piece : Text) : Prop :=
  ∃ c w e, piece = c :: (w ++ [e]) ∧ Solid e ∧ (i.Undashed → Solid c)

/-- What an item takes: behind a gap that has an end, a piece of the text. -/
theorem exists_piece (h : item t = some (i, rest)) : ∃ g piece, t = g ++ (piece ++ rest) ∧
    skip t = piece ++ rest ∧ Closed g ∧ i.Piece piece := by
  obtain ⟨g, hg⟩ := skip_suffix t
  have hparts {c e : CodePoint} {w : Text} (hskip : skip t = c :: (w ++ e :: rest)) :
      t = g ++ (c :: (w ++ [e]) ++ rest) ∧ skip t = c :: (w ++ [e]) ++ rest ∧ Closed g := by
    have hpiece : c :: (w ++ e :: rest) = c :: (w ++ [e]) ++ rest := by simp
    rw [hskip] at hg
    refine ⟨by rw [← hpiece, hg], by rw [hskip, hpiece],
      closed_of_skip (c := c) (u := w ++ e :: rest) ?_⟩
    rw [hg, hskip]
  rcases item_eq_some h with ⟨n, attributes, rfl, hfield⟩ | ⟨k, v, rfl, -, hoption⟩
  · obtain ⟨t₁, t₂, t₃, h₁, h₂, h₃, -, h₄⟩ := field_eq_some hfield
    obtain ⟨c, w, hskip, hc⟩ := keyword_head h₁
    have hbrace : CodePoint.char '\x7d' :: rest <:+ t₁ :=
      (skip_of_symbol h₄ ▸ skip_suffix _).trans ((options_readAt t₃.length t₃).1.trans
        ((symbol_suffix h₃).trans (name_suffix h₂)))
    obtain ⟨x, rfl⟩ := hbrace
    rw [← List.append_assoc] at hskip
    obtain ⟨ht, hpiece, hclosed⟩ := hparts hskip
    exact ⟨g, _, ht, hpiece, hclosed, c, w ++ x, .char '\x7d', rfl,
      ⟨by decide, by decide⟩, fun _ => hc⟩
  · obtain ⟨t₁, t₂, h₁, h₂, h₃⟩ := option_eq_some hoption
    obtain ⟨hk, hskip, -⟩ := name_eq_some_iff.mp h₁
    obtain ⟨c, k, rfl⟩ := List.exists_cons_of_ne_nil hk.1
    obtain ⟨x, rfl⟩ := symbol_suffix h₂
    obtain ⟨g', b, e, rfl, he⟩ := value_last h₃
    have hskip' : skip t = c :: ((k ++ x ++ g' ++ b) ++ e :: rest) := by simp [hskip]
    obtain ⟨ht, hpiece, hclosed⟩ := hparts hskip'
    refine ⟨g, _, ht, hpiece, hclosed, c, k ++ x ++ g' ++ b, e, rfl, he, fun hdash => ⟨?_, ?_⟩⟩
    · exact (starts_of_isNamePart (hk.2 c List.mem_cons_self)).1
    · rintro rfl
      exact hdash rfl

/-! ## What is read from what is left -/

/-- A text, the items that are read from it, and the text with the overridden ones overwritten. -/
inductive Overwritten : Text → List Item → Text → Prop
  | stop {t : Text} : item t = none → Overwritten t [] t
  | more {g piece rest rest' : Text} {i : Item} {is : List Item} :
    item (g ++ (piece ++ rest)) = some (i, rest) → Closed g → i.Piece piece →
      Overwritten rest is rest' →
    Overwritten (g ++ (piece ++ rest)) (i :: is)
      (g ++ ((if i.isOverridden is then blank piece else piece) ++ rest'))

theorem overwritten_blankItems {v : Text} {n : Nat} (hn : t.length ≤ n) (h : Reads t is v) :
    Overwritten t is (blankItems n t) := by
  induction h generalizing n with
  | @stop t hread =>
    cases n with
    | zero => exact .stop hread
    | succ n =>
      rw [blankItems, hread]
      exact .stop hread
  | @more t rest v i is hread hrest ih =>
    have hlt := item_shorter hread
    obtain ⟨n, rfl⟩ : ∃ m, n = m + 1 := ⟨n - 1, by omega⟩
    obtain ⟨g, piece, rfl, hskip, hclosed, hpiece⟩ := exists_piece hread
    have hn' : rest.length ≤ n := by omega
    rw [blankItems, hread]
    simp only [hskip, take_front, (items_eq_iff hn').mpr hrest]
    exact .more hread hclosed hpiece (ih hn')

namespace Overwritten

theorem faded (h : Overwritten t is t') : Faded t t' := by
  induction h with
  | stop => exact .refl _
  | @more g piece rest rest' i is _ _ _ _ ih =>
    refine Faded.append_left ?_ g
    split
    · exact List.rel_append (faded_blank piece) ih
    · exact ih.append_left piece

/-- From what is left the items are read that are not overridden. -/
theorem reads (h : Overwritten t is t') {v : Text} (hreads : Reads t is v) :
    ∃ v', Reads t' (lasting is) v' ∧ skip v' = skip v := by
  induction h with
  | stop =>
    cases hreads with
    | stop hread => exact ⟨_, .stop hread, rfl⟩
  | @more g piece rest rest' i is hread hclosed _ hrest ih =>
    cases hreads with
    | more hread' hreads =>
      rw [hread] at hread'
      cases hread'
      obtain ⟨v', hreads', hv⟩ := ih hreads
      rw [lasting]
      split
      · -- What has been overwritten becomes a part of the gap before the next item.
        have hskip : skip (g ++ (blank piece ++ rest')) = skip rest' := by
          rw [hclosed.skip_append, (closed_blank piece).skip_append]
        obtain ⟨v'', hreads'', hv''⟩ := hreads'.of_skip hskip
        exact ⟨v'', hreads'', hv''.trans hv⟩
      · rw [← List.append_assoc] at hread
        have hread' := item_steady hread hrest.faded
        rw [List.append_assoc] at hread'
        exact ⟨v', .more hread' hreads', hv⟩

end Overwritten

/-! ## The items that are not overridden -/

theorem asOption_lasting (is : List Item) :
    (lasting is).filterMap Item.asOption = is.filterMap Item.asOption := by
  induction is with
  | nil => rfl
  | cons i is ih =>
    cases i with
    | option key value => exact congrArg ((key, value) :: ·) ih
    | field n attributes =>
      rw [lasting]
      split
      · exact ih
      · exact ih

/-- They have each name once, where it stands last. -/
theorem fieldNames_lasting (is : List Item) : fieldNames (lasting is) = (fieldNames is).dedup := by
  induction is with
  | nil => rfl
  | cons i is ih =>
    cases i with
    | option key value => exact ih
    | field n attributes =>
      have hcons (js : List Item) : fieldNames (.field n attributes :: js) =
          n :: fieldNames js := rfl
      rw [lasting, hcons, Item.isOverridden]
      split
      · next h => rw [List.dedup_cons_of_mem (List.contains_iff_mem.mp h), ih]
      · next h => rw [hcons, List.dedup_cons_of_notMem (mt List.contains_iff_mem.mpr h), ih]

/-- They have the attributes that stand last with a name. -/
theorem lookup_lasting (is : List Item) (key : Text) :
    ((lasting is).filterMap Item.asField).reverse.lookup key =
      (is.filterMap Item.asField).reverse.lookup key := by
  induction is with
  | nil => rfl
  | cons i is ih =>
    cases i with
    | option key value => exact ih
    | field n attributes =>
      have hcons (js : List Item) :
          ((Item.field n attributes :: js).filterMap Item.asField).reverse.lookup
          key = ((js.filterMap Item.asField).reverse.lookup key).or
            (if key == n then some attributes else none) := by
        change ((n, attributes) :: js.filterMap Item.asField).reverse.lookup key = _
        rw [List.reverse_cons, List.lookup_append, List.lookup_cons, List.lookup_nil]
        cases key == n <;> rfl
      rw [lasting, hcons, Item.isOverridden]
      split
      · next h =>
        -- The name stands behind the overridden field, so it is found there.
        obtain ⟨a, hmem, hname⟩ := List.mem_map.mp (List.contains_iff_mem.mp h)
        cases hlookup : (is.filterMap Item.asField).reverse.lookup key with
        | some found => rw [ih, hlookup, Option.some_or]
        | none =>
          have hother := List.lookup_eq_none_iff.mp hlookup a (List.mem_reverse.mpr hmem)
          rw [hname] at hother
          rw [ih, hlookup, Option.none_or, if_neg (by simpa using hother)]
      · rw [hcons, ih]

end Header

namespace Document

open Header (Item Overwritten fieldNames lasting)

/-- No line becomes a separator when fields are overwritten. -/
theorem clear_of_overwritten {t t' v : Text} {is : List Item} (h : Overwritten t is t')
    (hr : .char '\r' ∉ t) (hreads : Header.Reads t is v) (hv : Header.skip v = [])
    (hkeys : ∀ i ∈ is, i.Undashed) : Clear t t' := by
  induction h with
  | stop =>
    cases hreads
    exact clear_of_gap hv hr
  | @more g piece rest rest' i is hread hclosed hpiece _ ih =>
    obtain ⟨hkey, hkeys⟩ := List.forall_mem_cons.mp hkeys
    obtain ⟨hgr, hr⟩ := not_or.mp (mt List.mem_append.mpr hr)
    obtain ⟨hpr, hr⟩ := not_or.mp (mt List.mem_append.mpr hr)
    cases hreads with
    | more hread' hreads =>
      rw [hread] at hread'
      cases hread'
      have hrest := ih hr hreads hkeys
      refine Clear.gap ?_ hclosed hgr
      split
      · exact hrest.blank hpr
      · obtain ⟨c, w, e, rfl, he, hc⟩ := hpiece
        have hwr : .char '\r' ∉ w := fun hmem => hpr (by simp [hmem])
        exact hrest.piece (hc hkey) he hwr

/-! ## The text that is left -/

/-- A text with the lines of another one from the first separator on, whose header is that of the
other one with the fields overwritten that are overridden. -/
structure Blanked (text text' : Text) : Prop where
  header : headerText text' = Header.blankOverridden (headerText text)
  behind : (cutAtSeparator text'.lines).2 = (cutAtSeparator text.lines).2

theorem tab_not_mem_headerText (text : Text) : .char '\t' ∉ headerText text :=
  Text.tab_not_mem_expandTabsFrom 0 _

theorem parse_headerText (text : Text) : Header.parse (headerText text) =
    Header.parse (Text.join [.char '\n'] (cutAtSeparator text.lines).1) := by
  have htabs : (headerText text).expandTabs =
      (Text.join [.char '\n'] (cutAtSeparator text.lines).1).expandTabs :=
    Text.expandTabsFrom_of_not_mem 0 (tab_not_mem_headerText text)
  unfold Header.parse
  rw [htabs]

theorem cutAtSeparator_subset (lines : List Text) : (cutAtSeparator lines).1 ⊆ lines := by
  obtain ⟨header, templates, samples, h⟩ := exists_divided lines
  rw [h.cut_eq.1]
  exact h.subset

theorem carriageReturn_not_mem_headerText (text : Text) : .char '\r' ∉ headerText text := by
  intro hmem
  rcases Text.mem_join (Text.mem_of_mem_expandTabsFrom hmem (by decide)) with h | ⟨line, hline, h⟩
  · exact absurd h (by decide)
  · exact (Text.lineEnd_not_mem_lines _ line (cutAtSeparator_subset _ hline)).1 h

/-- No line of a header is a separator, without its tabs as with them. -/
theorem headerText_not_dashed (text : Text) : ∀ line ∈ (headerText text).lines, ¬ Dashed line := by
  obtain ⟨header, templates, samples, hdivided⟩ := exists_divided text.lines
  have hheader := hdivided.cut_eq.1
  rw [headerText, hheader]
  by_cases hnil : header = []
  · rw [hnil]
    exact List.forall_mem_singleton.mpr not_dashed_nil
  · rw [Text.lines_expandTabs hnil fun line hline =>
      Text.lineEnd_not_mem_lines text line (hdivided.subset hline)]
    refine List.forall_mem_map.mpr fun line hline => ?_
    rw [← isSeparator_iff, isSeparator_expandTabs, isSeparator_iff]
    exact hdivided.header_not_dashed line hline

theorem overwritten_headerText {text : Text} {is : List Item}
    (h : Header.parse (headerText text) = .ok is) :
    ∃ v, Header.Reads (headerText text) is v ∧ Header.skip v = [] ∧
      Overwritten (headerText text) is (Header.blankOverridden (headerText text)) := by
  obtain ⟨v, hreads, hv⟩ := Header.reads_of_parse h
  rw [Text.expandTabs, Text.expandTabsFrom_of_not_mem 0 (tab_not_mem_headerText text)] at hreads
  exact ⟨v, hreads, hv, Header.overwritten_blankItems (Nat.le_refl _) hreads⟩

/-- From the header that is left the items are read that are not overridden. -/
theorem Blanked.parse_header {text text' : Text} (hb : Blanked text text') {is : List Item}
    (h : Header.parse (headerText text) = .ok is) :
    Header.parse (headerText text') = .ok (Header.lasting is) := by
  obtain ⟨v, hreads, hv, hoverwritten⟩ := overwritten_headerText h
  obtain ⟨v', hreads', hv'⟩ := hoverwritten.reads hreads
  rw [← hb.header, ← Text.expandTabsFrom_of_not_mem 0 (tab_not_mem_headerText text')] at hreads'
  rw [Header.parse_of_reads hreads', if_pos (hv'.trans hv)]

/-- There is such a text, unless the name of an option begins with a dash. -/
theorem exists_blanked {text : Text} {is : List Item} (h : Header.parse (headerText text) = .ok is)
    (hkeys : ∀ i ∈ is, i.Undashed) : ∃ text', Blanked text text' := by
  obtain ⟨v, hreads, hv, hoverwritten⟩ := overwritten_headerText h
  set left := Header.blankOverridden (headerText text)
  have hmem {c : CodePoint} (hc : c ∉ headerText text) (hspace : c ≠ .char ' ') :
      c ∉ left := fun hmem =>
    (hoverwritten.faded.mem hmem).elim hc hspace
  have hr := hmem (carriageReturn_not_mem_headerText text) (by decide)
  have ht := hmem (tab_not_mem_headerText text) (by decide)
  have hdashed : ∀ line ∈ left.lines, ¬ Dashed line :=
    (clear_of_overwritten hoverwritten (carriageReturn_not_mem_headerText text) hreads hv
      hkeys).not_dashed (headerText_not_dashed text)
  have htext : (Text.join [.char '\n'] left.lines).expandTabs = left := by
    rw [Text.join_lines, Text.unifyLineEnds_eq hr, Text.expandTabs,
      Text.expandTabsFrom_of_not_mem 0 ht]
  have hjoin {behind : List Text} (hbehind : behind ⊆ text.lines) :
      (Text.join [.char '\n'] (left.lines ++ behind)).lines = left.lines ++ behind :=
    Text.lines_join (List.append_ne_nil_of_left_ne_nil (Text.lines_ne_nil left) behind)
      (List.forall_mem_append.mpr ⟨Text.lineEnd_not_mem_lines left,
        fun line hline => Text.lineEnd_not_mem_lines text line (hbehind hline)⟩)
  rcases cutAtSeparator_cases text.lines with
    hnone | ⟨header, separator, behind, hlines, hheader, hsep⟩
  · have hcut : cutAtSeparator left.lines = (left.lines, []) :=
      cutAtSeparator_of_none (isSeparator_eq_false hdashed)
    refine ⟨Text.join [.char '\n'] (left.lines ++ []), ?_, ?_⟩
    · rw [headerText, hjoin (List.nil_subset _), List.append_nil, hcut, htext]
    · rw [hjoin (List.nil_subset _), List.append_nil, hcut,
        cutAtSeparator_of_none (isSeparator_eq_false hnone)]
  · have hsubset : separator :: behind ⊆ text.lines := hlines ▸ List.subset_append_right header _
    refine ⟨Text.join [.char '\n'] (left.lines ++ separator :: behind), ?_, ?_⟩
    · rw [headerText, hjoin hsubset, cutAtSeparator_append hdashed hsep, htext]
    · rw [hjoin hsubset, cutAtSeparator_append hdashed hsep, hlines,
        cutAtSeparator_append hheader hsep]

/-! ## The documents -/

/-- What some items say, with the sections behind the header of a text. -/
def ofItems (text : Text) (is : List Item) : Document :=
  { is.foldl add {} with
    templates := entries (cutAtSeparator (cutAtSeparator text.lines).2).1
    samples := entries (cutAtSeparator (cutAtSeparator text.lines).2).2 }

theorem parse_eq (text : Text) :
    parse text = (Header.parse (headerText text)).map (ofItems text) := by
  rw [parse_headerText]
  rfl

theorem of_parse_ok {text : Text} {d : Document} (h : parse text = .ok d) :
    ∃ is, Header.parse (headerText text) = .ok is ∧ d = ofItems text is := by
  rw [parse_eq] at h
  cases hparse : Header.parse (headerText text) with
  | error e =>
    rw [hparse] at h
    cases h
  | ok is =>
    rw [hparse] at h
    exact ⟨is, rfl, (Except.ok.inj h).symm⟩

theorem repetitions_of_nodup {seen names : List Text} (h : names.Nodup)
    (hseen : ∀ n ∈ names, n ∉ seen) :
    repetitions seen names = [] := by
  induction names generalizing seen with
  | nil => rfl
  | cons n names ih =>
    obtain ⟨hn, hnames⟩ := List.nodup_cons.mp h
    rw [repetitions_cons, if_neg (hseen n List.mem_cons_self)]
    refine ih hnames fun m hm hmem => ?_
    rcases List.mem_cons.mp hmem with rfl | hmem
    · exact hn hm
    · exact hseen m (List.mem_cons_of_mem _ hm) hmem

/-- What the items say that are not overridden: the same but for the order of the fields. -/
structure Reordered (names : List Text) (d d' : Document) : Prop where
  options : d'.options = d.options
  fields : ∀ key, d'.fields.get? key = d.fields.get? key
  first : d.fields.keys = names.eraseDups
  last : d'.fields.keys = names.dedup
  repeated : d'.repeated = []

theorem Reordered.nodup {names : List Text} {d d' : Document} (h : Reordered names d d') :
    d.fields.keys.Nodup ∧ d'.fields.keys.Nodup := by
  rw [h.first, h.last]
  exact ⟨nodup_eraseDups names, List.nodup_dedup names⟩

theorem reordered_of_holds {is : List Item} {d d' : Document} (h : Holds is d)
    (h' : Holds (lasting is) d') : Reordered (fieldNames is) d d' where
  options := by
    have hoptions := h'.options
    rw [Header.asOption_lasting] at hoptions
    exact hoptions.unique (fun _ _ _ hab hab' => hab.symm.trans hab') h.options
  fields := h'.fields.get?_congr
    (fun _ _ _ hab hab' => hab.unique (fun _ _ _ e e' => e.symm.trans e') hab')
    h.fields (Header.lookup_lasting is)
  first := h.fields.keys_eq
  last := by
    have hnames := Header.fieldNames_lasting is
    rw [h'.fields.keys_eq, ← fieldNames, hnames, eraseDups_of_nodup (List.nodup_dedup _)]
  repeated := by
    have hnames := Header.fieldNames_lasting is
    rw [h'.repeated, ← fieldNames, hnames]
    exact repetitions_of_nodup (List.nodup_dedup _) fun _ _ => List.not_mem_nil

/-- Where the overridden fields have been overwritten, the document is the same but for the order of
its fields. -/
theorem Blanked.exists_reordered {text text' : Text} (hb : Blanked text text') {is : List Item}
    (h : Header.parse (headerText text) = .ok is) :
    ∃ d', parse text' = .ok d' ∧ Reordered (fieldNames is) (ofItems text is) d' ∧
      d'.templates = (ofItems text is).templates ∧ d'.samples = (ofItems text is).samples := by
  have hleft := hb.parse_header h
  have hreordered := reordered_of_holds (Holds.foldl (Header.trimmed_of_parse h))
    (Holds.foldl (Header.trimmed_of_parse hleft))
  refine ⟨ofItems text' (lasting is), by rw [parse_eq, hleft]; rfl, { hreordered with }, ?_, ?_⟩
  · simp only [ofItems, hb.behind]
  · simp only [ofItems, hb.behind]

end Document

end LineSift
