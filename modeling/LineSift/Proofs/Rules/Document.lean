import Mathlib.Data.List.Induction
import LineSift.Proofs.Assoc
import LineSift.Proofs.Rules.Reading
import LineSift.Proofs.Text.Space
import LineSift.Rules.Document

/-!
# What a written header says

A rules file without a separator line whose text, every line end read as a line feed, is a written
header can be read; its options and fields are those of the items, each name at its first place with
what was written last (`exists_holds_of_writes`).  A carriage return ends a line, and so it ends a
comment as well: what stands behind it in the comment is read as a part of the header
(`comment_over_carriage_return`).
-/

namespace LineSift

namespace Header

theorem isSpace_of_isNamePart {c : CodePoint} (h : isNamePart c) : c.isSpace = false := by
  have hn : c.toNat = 45 ∨ c.toNat = 95 ∨ 48 ≤ c.toNat ∧ c.toNat ≤ 57 ∨
      65 ≤ c.toNat ∧ c.toNat ≤ 90 ∨ 97 ≤ c.toNat ∧ c.toNat ≤ 122 := by
    simp only [isNamePart, CodePoint.isAsciiAlnum, CodePoint.isAsciiDigit, CodePoint.inRange,
      Bool.or_eq_true, Bool.and_eq_true, decide_eq_true_eq, beq_iff_eq] at h
    rcases h with (((h | h) | h) | rfl) | rfl
    · exact .inr (.inr (.inl h))
    · exact .inr (.inr (.inr (.inl h)))
    · exact .inr (.inr (.inr (.inr h)))
    · exact .inl rfl
    · exact .inr (.inl rfl)
  rw [Bool.eq_false_iff]
  intro hs
  simp only [CodePoint.isSpace, CodePoint.inRange, Bool.or_eq_true, Bool.and_eq_true,
    decide_eq_true_eq, beq_iff_eq] at hs
  omega

theorem IsName.strip_eq {n : Text} (h : IsName n) : Text.strip n = n :=
  Text.strip_of_ends (fun c hc => isSpace_of_isNamePart (h.2 c (List.mem_of_head? hc)))
    (fun c hc => isSpace_of_isNamePart (h.2 c (List.mem_of_getLast? hc)))

/-- A value stands between quotes or brackets. -/
theorem IsValue.enclosed {v : Text} (h : IsValue v) :
    ∃ o b e, v = o :: (b ++ [e]) ∧ o.isSpace = false ∧ e.isSpace = false := by
  cases h with
  | string h => cases h <;> exact ⟨_, _, _, rfl, by decide, by decide⟩
  | list _ h =>
    obtain ⟨b, rfl⟩ := h.exists_body
    exact ⟨_, b, _, rfl, by decide, by decide⟩

/-- A value has no white space around it. -/
theorem IsValue.strip_eq {v : Text} (h : IsValue v) : Text.strip v = v := by
  obtain ⟨o, b, e, rfl, ho, he⟩ := h.enclosed
  exact Text.strip_enclosed ho he b

namespace Item

/-- The name and value of an option. -/
def asOption : Item → Option (Text × Text)
  | option key value => some (key, value)
  | field _ _ => none

/-- The name and the options of a field. -/
def asField : Item → Option (Text × List (Text × Text))
  | option _ _ => none
  | field name attributes => some (name, attributes)

end Item

/-- Whether names and values stay as they are when white space around them is left out. -/
def Item.Trimmed : Item → Prop
  | option key value => Text.strip key = key ∧ Text.strip value = value
  | field name attributes => Text.strip name = name ∧
      ∀ a ∈ attributes, Text.strip a.1 = a.1 ∧ Text.strip a.2 = a.2

theorem trimmed_of_assignment {a : Text × Text} (h : ∀ tok ∈ assignment a, tok.Valid) :
    Text.strip a.1 = a.1 ∧ Text.strip a.2 = a.2 := by
  have hname : (Token.name a.1).Valid := h _ (by simp [assignment])
  have hvalue : (Token.value a.2).Valid := h _ (by simp [assignment])
  exact ⟨IsName.strip_eq hname, hvalue.1.strip_eq⟩

theorem Spells.trimmed {is : List Item} {ts : List Token} (h : Spells is ts)
    (hv : ∀ tok ∈ ts, tok.Valid) : ∀ i ∈ is, i.Trimmed := by
  induction h with
  | nil => exact List.forall_mem_nil _
  | option _ ih =>
    obtain ⟨ha, hv⟩ := List.forall_mem_append.mp hv
    exact List.forall_mem_cons.mpr ⟨trimmed_of_assignment ha, ih hv⟩
  | @field w name attributes is ts _ ih =>
    have hname : (Token.name name).Valid := hv _ (by simp)
    refine List.forall_mem_cons.mpr ⟨⟨IsName.strip_eq hname, fun a ha => ?_⟩, ih fun tok h => ?_⟩
    · exact trimmed_of_assignment fun tok h =>
        hv tok (by simp only [List.mem_cons, List.mem_append, List.mem_flatMap]; grind)
    · exact hv tok (by simp [h])

end Header

namespace Document

open Header (Item)
open Assoc (LastAtFirst)

/-- The names of a list that occurred before, once for each repetition; `seen` are the names that
have occurred before the list. -/
def repetitions (seen : List Text) : List Text → List Text
  | [] => []
  | name :: names =>
    if seen.contains name then name :: repetitions seen names else repetitions (name :: seen) names

theorem repetitions_cons (seen names : List Text) (name : Text) :
    repetitions seen (name :: names) =
      if name ∈ seen then name :: repetitions seen names else repetitions (name :: seen) names := by
  simp only [repetitions, List.contains_iff_mem]

theorem repetitions_concat (seen names : List Text) (name : Text) :
    repetitions seen (names ++ [name]) =
      if name ∈ seen ∨ name ∈ names then repetitions seen names ++ [name]
      else repetitions seen names := by
  induction names generalizing seen with
  | nil => simp [repetitions]
  | cons n names ih =>
    by_cases hn : n ∈ seen
    · rw [List.cons_append, repetitions_cons, repetitions_cons, if_pos hn, if_pos hn, ih]
      by_cases hname : name = n
      · simp [hname, hn]
      · simp only [List.mem_cons, hname, false_or]
        split <;> rfl
    · rw [List.cons_append, repetitions_cons, repetitions_cons, if_neg hn, if_neg hn, ih]
      simp only [List.mem_cons]
      congr 1
      grind

/-- A document says what the items say: each option and field at its first place with what was
written last, the same for the options of a field, and every field that was there already. -/
structure Holds (is : List Item) (d : Document) : Prop where
  options : LastAtFirst Eq (is.filterMap Item.asOption) d.options
  fields : LastAtFirst (LastAtFirst Eq) (is.filterMap Item.asField) d.fields
  repeated : d.repeated = repetitions [] ((is.filterMap Item.asField).map (·.1))
  templates : d.templates = []
  samples : d.samples = []

theorem Holds.nil : Holds [] {} := ⟨.nil, .nil, rfl, rfl, rfl⟩

theorem Holds.add {is : List Item} {d : Document} (h : Holds is d) {i : Item} (hi : i.Trimmed) :
    Holds (is ++ [i]) (d.add i) := by
  cases i with
  | option key value =>
    obtain ⟨hkey, hvalue⟩ := hi
    have hoptions : (is ++ [Item.option key value]).filterMap Item.asOption =
        is.filterMap Item.asOption ++ [(key, value)] := by simp [Item.asOption]
    have hfields : (is ++ [Item.option key value]).filterMap Item.asField =
        is.filterMap Item.asField := by simp [Item.asField]
    refine ⟨?_, ?_, ?_, h.templates, h.samples⟩
    · rw [hoptions, Document.add, hkey, hvalue]
      exact h.options.put key rfl
    · rw [hfields]
      exact h.fields
    · rw [hfields]
      exact h.repeated
  | field name attributes =>
    obtain ⟨hname, hattributes⟩ := hi
    have hoptions : (is ++ [Item.field name attributes]).filterMap Item.asOption =
        is.filterMap Item.asOption := by simp [Item.asOption]
    have hfields : (is ++ [Item.field name attributes]).filterMap Item.asField =
        is.filterMap Item.asField ++ [(name, attributes)] := by simp [Item.asField]
    have hstrip : attributes.map (fun a => (Text.strip a.1, Text.strip a.2)) = attributes :=
      (List.map_congr_left fun a ha => Prod.ext (hattributes a ha).1 (hattributes a ha).2).trans
        (List.map_id _)
    have hadd : d.add (.field name attributes) = { d with
        fields := d.fields.put name (Assoc.ofList attributes)
        repeated := if d.fields.has name then d.repeated ++ [name] else d.repeated } := by
      simp only [Document.add, hname, hstrip]
    rw [hadd]
    refine ⟨?_, ?_, ?_, h.templates, h.samples⟩
    · rw [hoptions]
      exact h.options
    · rw [hfields]
      exact h.fields.put name (Assoc.lastAtFirst_ofList attributes)
    · rw [hfields, List.map_append, List.map_singleton, repetitions_concat, ← h.repeated]
      simp only [Assoc.has_iff_mem_keys, h.fields.mem_keys, List.not_mem_nil, false_or]

theorem Holds.foldl {is : List Item} (hi : ∀ i ∈ is, i.Trimmed) :
    Holds is (is.foldl Document.add {}) := by
  induction is using List.reverseRecOn with
  | nil => exact .nil
  | append_singleton is i ih =>
    obtain ⟨his, hlast⟩ := List.forall_mem_append.mp hi
    rw [List.foldl_append, List.foldl_cons, List.foldl_nil]
    exact (ih his).add (hlast i List.mem_cons_self)

theorem cutAtSeparator_of_none {lines : List Text} (h : ∀ line ∈ lines, isSeparator line = false) :
    cutAtSeparator lines = (lines, []) := by
  induction lines with
  | nil => rfl
  | cons line lines ih =>
    obtain ⟨hline, hlines⟩ := List.forall_mem_cons.mp h
    rw [cutAtSeparator, if_neg (by simp [hline]), ih hlines]

/-- A text that, with each of its line ends read as a line feed, writes a header and has no
separator line is read, whatever the layout, and the document says what the items say. -/
theorem exists_holds_of_writes {is : List Item} {text : Text}
    (h : Header.Writes is text.unifyLineEnds)
    (hlines : ∀ line ∈ text.lines, isSeparator line = false) :
    ∃ d, parse text = .ok d ∧ d.Holds is := by
  have htrimmed : ∀ i ∈ is, i.Trimmed := by
    obtain ⟨ts, hs, hv, -⟩ := h
    exact hs.trimmed hv
  have hheld : Holds is (is.foldl add {}) := Holds.foldl htrimmed
  refine ⟨{ is.foldl add {} with templates := [], samples := [] }, ?_, { hheld with
    templates := rfl
    samples := rfl }⟩
  have hcut : cutAtSeparator text.lines = (text.lines, []) := cutAtSeparator_of_none hlines
  have hparse : Header.parse (Text.join [.char '\n'] text.lines) = .ok is := by
    rw [Text.join_lines]
    exact Header.parse_of_writes h
  rw [parse, hcut]
  simp only [cutAtSeparator, hparse]
  rfl

section Examples

open Header Text

/-- A field with the name of the keyword and an attribute that is written twice, and an option with
the name of the keyword. -/
theorem exists_holds_of_writes_keyword :
    ∃ d, parse (ofString "#a\rFIELD#\r\nfield\x7bx='1'x=`2`\x7dfield=[\"\" , `3`]") = .ok d ∧
      d.Holds [.field (ofString "field")
          [(ofString "x", ofString "'1'"), (ofString "x", ofString "`2`")],
        .option (ofString "field") (ofString "[\"\" , `3`]")] := by
  have hkeyword : IsKeyword (ofString "FIELD") :=
    .cons (.inr rfl)
      (.cons (.inr rfl) (.cons (.inr rfl) (.cons (.inr rfl) (.cons (.inr rfl) .nil))))
  have hfield : IsName (ofString "field") := ⟨by decide, by decide⟩
  have hx : IsName (ofString "x") := ⟨by decide, by decide⟩
  have hsingle : Quoted (ofString "'1'") :=
    .single (b := [.char '1']) ⟨fun before behind h => by
      have hmem : CodePoint.char '\'' ∈ [CodePoint.char '1'] := h ▸ by simp
      exact absurd hmem (by decide), by decide⟩
  have hraw : Quoted (ofString "`2`") := .raw (b := [.char '2']) (by decide)
  have hspace : Spaces [.char ' '] := List.forall_mem_singleton.mpr rfl
  have helements : Elements Spaces [ofString "\"\"", ofString "`3`"] (ofString "\"\" , `3`") :=
    .more (s := ofString "\"\"") hspace hspace
      (.last (s := ofString "`3`") (g := []) (List.forall_mem_nil _))
  have hlist : IsValue (ofString "[\"\" , `3`]") :=
    .list (List.forall_mem_cons.mpr ⟨.double .nil,
      List.forall_mem_singleton.mpr (.raw (b := [.char '3']) (by decide))⟩)
      (.elements (g := []) (List.forall_mem_nil _) helements)
  have hinline : Inline (ofString "'1'") ∧ Inline (ofString "`2`") ∧
      Inline (ofString "[\"\" , `3`]") := by
    refine ⟨⟨?_, ?_, ?_⟩, ⟨?_, ?_, ?_⟩, ⟨?_, ?_, ?_⟩⟩ <;> decide
  refine exists_holds_of_writes ⟨_, .field (w := ofString "FIELD") (.option .nil),
    ?valid, ?laid⟩ ?lines
  case valid =>
    simp [assignment, Token.Valid, hkeyword, hfield, hx, IsValue.string hsingle,
      IsValue.string hraw, hlist, hinline]
  case laid =>
    refine .cons (g := ofString "#a\n") (.comment (c := ofString "a") (by decide) .nil)
      (.comment (c := []) (by decide) .nil) (by decide) ?_
    exact .other .nil .nil rfl <| .other .nil .nil rfl <| .other .nil .nil rfl <|
      .other .nil .nil rfl <| .other .nil .nil rfl <| .other .nil .nil rfl <|
      .other .nil .nil rfl <| .other .nil .nil rfl <| .other .nil .nil rfl <|
      .other .nil .nil rfl <| .other .nil .nil rfl <| .other .nil .nil rfl <| .nil .nil
  case lines => decide

/-- A comment with a carriage return in it is written, but not read: the carriage return ends it. -/
theorem comment_over_carriage_return :
    Writes [.option (ofString "x") (ofString "\"y\"")] (ofString "# a\rb\nx = \"y\"\n") ∧
      (∀ line ∈ (ofString "# a\rb\nx = \"y\"\n").lines, isSeparator line = false) ∧
      ∀ d, parse (ofString "# a\rb\nx = \"y\"\n") ≠ .ok d := by
  refine ⟨⟨_, .option .nil, ?valid, ?laid⟩, by decide, ?fails⟩
  case valid =>
    have hx : IsName (ofString "x") := ⟨by decide, by decide⟩
    have hy : Quoted (ofString "\"y\"") :=
      .double (b := [.char 'y']) (.plain (by decide) (by decide) .nil)
    have hinline : Inline (ofString "\"y\"") := ⟨by decide, by decide, by decide⟩
    simp [assignment, Token.Valid, hx, IsValue.string hy, hinline]
  case laid =>
    exact .other (g := ofString "# a\rb\n") (.comment (c := ofString " a\rb") (by decide) .nil)
      (.space .nil) rfl <| .other .nil (.space .nil) rfl <| .other .nil (.lineFeed .nil) rfl <|
      .nil .nil
  case fails =>
    have hok : (parse (ofString "# a\rb\nx = \"y\"\n")).isOk = false := by decide +kernel
    intro d hd
    rw [hd] at hok
    exact Bool.noConfusion hok

end Examples

end Document

end LineSift
