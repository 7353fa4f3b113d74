import LineSift.Proofs.Encoding.Ascii
import LineSift.Proofs.Rules.Onward
import LineSift.Proofs.Rules.Sections

/-!
# Headers that stand below one another

Where a header is read, a further header on the lines below is read as if it stood alone: its items
follow those of the first, and what is wrong in it is told at the same column, as many lines further
down as the first has (`Header.parse_below`).  The documents are merged accordingly: the options and
fields of the second override those of the first, and a field of the second is repeated if it stands
in the first already (`parse_append`).
-/

namespace LineSift

namespace Header

theorem parse_of_reads {t v : Text} {is : List Item} (h : Reads t.expandTabs is v) :
    parse t = if skip v = [] then .ok is else
      .error ⟨t.expandTabs.lineAt (t.expandTabs.length - (skip v).length),
        t.expandTabs.columnAt (t.expandTabs.length - (skip v).length)⟩ := by
  rw [parse, (items_eq_iff (Nat.le_refl _)).mpr h]
  cases hskip : skip v with
  | nil => simp [hskip]
  | cons c u => simp [hskip]

theorem reads_of_parse {t : Text} {is : List Item} (h : parse t = .ok is) :
    ∃ v, Reads t.expandTabs is v ∧ skip v = [] := by
  obtain ⟨is', v, hreads⟩ := exists_reads t.expandTabs
  rw [parse_of_reads hreads] at h
  split at h
  · next hv =>
    cases h
    exact ⟨v, hreads, hv⟩
  · cases h

/-- A place, as many lines further down. -/
def Error.below (e : Error) (lines : Nat) : Error := ⟨lines + e.line, e.column⟩

/-- Below a header that is read, a header is read as it is alone, but for the lines at which its
errors are. -/
theorem parse_below {t : Text} {is : List Item} (h : parse t = .ok is) (u : Text) :
    parse (t ++ .char '\n' :: u) =
      ((parse u).map (is ++ ·)).mapError (·.below (t.count (.char '\n') + 1)) := by
  obtain ⟨v, hreads, hv⟩ := reads_of_parse h
  obtain ⟨js, w, hreads'⟩ := exists_reads u.expandTabs
  obtain ⟨w', hwhole, hw'⟩ := hreads.append hv hreads'
  have htabs : (t ++ .char '\n' :: u).expandTabs = t.expandTabs ++ .char '\n' :: u.expandTabs :=
    Text.expandTabsFrom_lineFeed 0 t u
  rw [← htabs] at hwhole
  rw [parse_of_reads hwhole, parse_of_reads hreads', hw']
  split
  · rfl
  · -- What is left is a part of the second text, so the place of the error is one below the first.
    have hle : (skip w).length ≤ u.expandTabs.length :=
      ((skip_suffix w).trans hreads'.suffix).length_le
    have hplace : (t.expandTabs ++ CodePoint.char '\n' :: u.expandTabs).length - (skip w).length =
        t.expandTabs.length + 1 + (u.expandTabs.length - (skip w).length) := by
      rw [List.length_append, List.length_cons]
      omega
    rw [htabs, hplace, Text.lineAt_below, Text.columnAt_below, Text.expandTabs,
      Text.count_lineFeed_expandTabsFrom]
    rfl

theorem isName_of_item {t rest n : Text} {attributes : List (Text × Text)}
    (h : item t = some (.field n attributes, rest)) : IsName n := by
  rcases item_eq_some h with ⟨n', attributes', hi, hfield⟩ | ⟨k, v, hi, -⟩
  · cases hi
    obtain ⟨t₁, t₂, t₃, -, hname, -⟩ := field_eq_some hfield
    exact (name_eq_some_iff.mp hname).1
  · cases hi

/-- The names of the fields among some items. -/
def fieldNames (is : List Item) : List Text := (is.filterMap Item.asField).map (·.1)

theorem isName_of_parse {t : Text} {is : List Item} (h : parse t = .ok is) :
    ∀ n ∈ fieldNames is, IsName n := by
  obtain ⟨v, hreads, -⟩ := reads_of_parse h
  clear h
  generalize t.expandTabs = u at hreads
  induction hreads with
  | stop => exact List.forall_mem_nil _
  | @more t rest v i is hread _ ih =>
    cases i with
    | option => exact ih
    | field n attributes => exact List.forall_mem_cons.mpr ⟨isName_of_item hread, ih⟩

theorem trimmed_of_option {t rest : Text} {a : Text × Text} (h : option t = some (a, rest)) :
    Text.strip a.1 = a.1 ∧ Text.strip a.2 = a.2 := by
  obtain ⟨t₁, t₂, h₁, h₂, h₃⟩ := option_eq_some h
  exact ⟨(name_eq_some_iff.mp h₁).1.strip_eq, strip_of_readAt ⟨t₂, rest, List.suffix_refl _, h₃⟩⟩

theorem trimmed_of_options (n : Nat) (t : Text) :
    ∀ a ∈ (options n t).1, Text.strip a.1 = a.1 ∧ Text.strip a.2 = a.2 := by
  fun_induction options n t with
  | case1 => exact List.forall_mem_nil _
  | case2 n t a rest h os rest' hos ih =>
    rw [hos] at ih
    exact List.forall_mem_cons.mpr ⟨trimmed_of_option h, ih⟩
  | case3 => exact List.forall_mem_nil _

theorem trimmed_of_item {t rest : Text} {i : Item} (h : item t = some (i, rest)) : i.Trimmed := by
  rcases item_eq_some h with ⟨n, attributes, rfl, hfield⟩ | ⟨k, v, rfl, -, hoption⟩
  · obtain ⟨t₁, t₂, t₃, -, -, -, rfl, -⟩ := field_eq_some hfield
    exact ⟨(isName_of_item h).strip_eq, trimmed_of_options t₃.length t₃⟩
  · exact trimmed_of_option hoption

/-- What is read has no white space around it. -/
theorem trimmed_of_parse {t : Text} {is : List Item} (h : parse t = .ok is) :
    ∀ i ∈ is, i.Trimmed := by
  obtain ⟨v, hreads, -⟩ := reads_of_parse h
  clear h
  generalize t.expandTabs = u at hreads
  induction hreads with
  | stop => exact List.forall_mem_nil _
  | more hread _ ih => exact List.forall_mem_cons.mpr ⟨trimmed_of_item hread, ih⟩

end Header

namespace Assoc

variable {α : Type}

/-- A table has the names of one table and behind them those that only a second table has; where
both have a name, it has the value of the second. -/
structure Overrides (t₁ t₂ t : Assoc α) : Prop where
  keys_eq : t.keys = t₁.keys ++ t₂.keys.filter (· ∉ t₁.keys)
  get?_eq : ∀ key, t.get? key = (t₂.get? key).or (t₁.get? key)

variable {t₁ t₂ t : Assoc α}

theorem Overrides.nil : Overrides t₁ [] t₁ :=
  ⟨(List.append_nil _).symm, fun _ => rfl⟩

theorem Overrides.mem_keys (h : Overrides t₁ t₂ t) {key : Text} :
    key ∈ t.keys ↔ key ∈ t₁.keys ∨ key ∈ t₂.keys := by
  rw [h.keys_eq, List.mem_append, List.mem_filter, decide_eq_true_eq]
  tauto

theorem Overrides.put (h : Overrides t₁ t₂ t) (key : Text) (value : α) :
    Overrides t₁ (t₂.put key value) (t.put key value) where
  keys_eq := by
    simp only [keys_put, h.mem_keys]
    by_cases h₂ : key ∈ t₂.keys
    · rw [if_pos (.inr h₂), if_pos h₂, h.keys_eq]
    · rw [if_neg h₂, List.filter_append, h.keys_eq]
      by_cases h₁ : key ∈ t₁.keys
      · simp [h₁]
      · simp [h₁, h₂]
  get?_eq k := by
    rw [get?_put, get?_put]
    split
    · rfl
    · exact h.get?_eq k

end Assoc

namespace Document

open Header (Item fieldNames)
open Assoc (Overrides)

/-- A document is another one with a header below: the options and fields of the header override
those that were there already, and its fields are repeated where their names were there or came
before in the header. -/
structure Merged (d₁ d₂ : Document) (is : List Item) (d : Document) : Prop where
  options : Overrides d₁.options d₂.options d.options
  fields : Overrides d₁.fields d₂.fields d.fields
  repeated : d.repeated = d₁.repeated ++ repetitions d₁.fields.keys (fieldNames is)

theorem fieldNames_append (is js : List Item) :
    fieldNames (is ++ js) = fieldNames is ++ fieldNames js := by
  simp only [fieldNames, List.filterMap_append, List.map_append]

theorem mem_keys_foldl {is : List Item} (hn : ∀ n ∈ fieldNames is, Text.strip n = n) (n : Text) :
    n ∈ (is.foldl add {}).fields.keys ↔ n ∈ fieldNames is := by
  induction is using List.reverseRecOn with
  | nil => exact Iff.rfl
  | append_singleton is i ih =>
    rw [fieldNames_append] at hn ⊢
    obtain ⟨his, hi⟩ := List.forall_mem_append.mp hn
    rw [List.foldl_append, List.foldl_cons, List.foldl_nil, List.mem_append, ← ih his]
    cases i with
    | option key value => exact (or_iff_left List.not_mem_nil).symm
    | field n' attributes =>
      have hname : fieldNames [.field n' attributes] = [n'] := rfl
      simp only [add, hi n' List.mem_cons_self, hname, Assoc.keys_put, List.mem_singleton]
      split
      · next hmem => exact ⟨.inl, fun h => h.elim id fun h => h ▸ hmem⟩
      · rw [List.mem_append, List.mem_singleton]

/-- One more item is added to the header below and to the whole. -/
theorem Merged.add {d₁ d₂ d : Document} {is : List Item} (h : Merged d₁ d₂ is d) {i : Item}
    (hi : ∀ n ∈ fieldNames [i], Text.strip n = n)
    (hd₂ : ∀ n, n ∈ d₂.fields.keys ↔ n ∈ fieldNames is) :
    Merged d₁ (d₂.add i) (is ++ [i]) (d.add i) := by
  cases i with
  | option key value =>
    refine ⟨h.options.put _ _, h.fields, ?_⟩
    rw [fieldNames_append]
    exact h.repeated.trans (congrArg (fun ns => _ ++ repetitions _ ns) (List.append_nil _).symm)
  | field n attributes =>
    have hname : fieldNames (is ++ [.field n attributes]) = fieldNames is ++ [n] :=
      fieldNames_append is _
    have hkeys : n ∈ d.fields.keys ↔ n ∈ d₁.fields.keys ∨ n ∈ fieldNames is :=
      h.fields.mem_keys.trans (or_congr_right (hd₂ n))
    have hn := hi n List.mem_cons_self
    refine ⟨h.options, ?_, ?_⟩
    · simp only [Document.add, hn]
      exact h.fields.put n _
    · simp only [Document.add, hn, hname, repetitions_concat, Assoc.has_iff_mem_keys,
        hkeys, h.repeated]
      split
      · rw [List.append_assoc]
      · rfl

theorem merged_foldl (d : Document) {is : List Item} (hn : ∀ n ∈ fieldNames is, Text.strip n = n) :
    Merged d (is.foldl add {}) is (is.foldl add d) := by
  induction is using List.reverseRecOn with
  | nil => exact ⟨.nil, .nil, (List.append_nil _).symm⟩
  | append_singleton is i ih =>
    have hn' := hn
    rw [fieldNames_append] at hn'
    obtain ⟨his, hi⟩ := List.forall_mem_append.mp hn'
    simp only [List.foldl_append, List.foldl_cons, List.foldl_nil]
    exact (ih his).add hi (mem_keys_foldl his)

/-- Where no line is a separator, the whole text is the header. -/
theorem parse_of_header {t : Text} (hr : .char '\r' ∉ t)
    (hlines : ∀ line ∈ t.lines, ¬ Dashed line) :
    parse t = (Header.parse t).map fun is =>
      { is.foldl add {} with templates := [], samples := [] } := by
  have hcut : cutAtSeparator t.lines = (t.lines, []) := cutAtSeparator_of_none fun line hline =>
    Bool.eq_false_iff.mpr (mt (isSeparator_iff line).mp (hlines line hline))
  rw [parse, hcut]
  simp only [Text.join_lines, Text.unifyLineEnds_eq hr]
  rfl

/-- Below a header that is read, another header is read if it is read alone, and the document is
that of the first with the second below; an error in the second is told where it is in the whole. -/
theorem parse_append {h₁ h₂ : Text} (hr₁ : .char '\r' ∉ h₁) (hr₂ : .char '\r' ∉ h₂)
    (hlines₁ : ∀ line ∈ h₁.lines, ¬ Dashed line) (hlines₂ : ∀ line ∈ h₂.lines, ¬ Dashed line)
    {d₁ : Document} (h : parse h₁ = .ok d₁) :
    (∀ d₂, parse h₂ = .ok d₂ → ∃ is d, Header.parse h₂ = .ok is ∧
      parse (h₁ ++ .char '\n' :: h₂) = .ok d ∧ Merged d₁ d₂ is d ∧
      d.templates = [] ∧ d.samples = []) ∧
    ∀ e, parse h₂ = .error e →
      parse (h₁ ++ .char '\n' :: h₂) = .error ⟨h₁.count (.char '\n') + 1 + e.line, e.column⟩ := by
  have hr : .char '\r' ∉ h₁ ++ .char '\n' :: h₂ := by simp [hr₁, hr₂]
  have hlines : ∀ line ∈ (h₁ ++ .char '\n' :: h₂).lines, ¬ Dashed line := by
    rw [Text.lines_append hr₁]
    exact List.forall_mem_append.mpr ⟨hlines₁, hlines₂⟩
  rw [parse_of_header hr₁ hlines₁] at h
  rw [parse_of_header hr₂ hlines₂, parse_of_header hr hlines]
  cases hparse : Header.parse h₁ with
  | error e =>
    rw [hparse] at h
    cases h
  | ok is₁ =>
    rw [hparse] at h
    cases h
    rw [Header.parse_below hparse]
    cases hparse₂ : Header.parse h₂ with
    | error e =>
      refine ⟨fun d₂ h => (by cases h), fun e' h => ?_⟩
      cases h
      rfl
    | ok is₂ =>
      refine ⟨fun d₂ h => ?_, fun e' h => (by cases h)⟩
      cases h
      have hmerged := merged_foldl (is₁.foldl add {}) fun n hn =>
        (Header.isName_of_parse hparse₂ n hn).strip_eq
      rw [← List.foldl_append] at hmerged
      exact ⟨is₂, _, rfl, rfl, ⟨hmerged.options, hmerged.fields, hmerged.repeated⟩, rfl, rfl⟩

section Examples

open Text (ofString)

/-- A comment at the end of the first header, then a header that repeats its field and its option,
and another with an error behind a tab. -/
theorem parse_append_repeated :
    (∃ is d, parse (ofString "x = '1'\nfield a \x7b\x7d # b" ++
        .char '\n' :: ofString "field a \x7b\x7d\nx = '2'") = .ok d ∧
      Merged { options := [("x", "'1'")], fields := [("a", [])] }
        { options := [("x", "'2'")], fields := [("a", [])] } is d ∧ d.repeated = [ofString "a"]) ∧
    parse (ofString "x = '1'\nfield a \x7b\x7d # b" ++ .char '\n' :: ofString "\t= '2'") =
      .error ⟨3, 9⟩ := by
  have h : parse (ofString "x = '1'\nfield a \x7b\x7d # b") =
      .ok { options := [("x", "'1'")], fields := [("a", [])] } := rfl
  constructor
  · have h₂ : parse (ofString "field a \x7b\x7d\nx = '2'") =
        .ok { options := [("x", "'2'")], fields := [("a", [])] } := rfl
    have hlines : ∀ line ∈ (ofString "field a \x7b\x7d\nx = '2'").lines, ¬ Dashed line := by
      simp only [← isSeparator_iff]
      decide
    obtain ⟨is, d, his, hd, hmerged, -, -⟩ := (parse_append (by decide) (by decide)
      (by simp only [← isSeparator_iff]; decide) hlines h).1 _ h₂
    have hitems : Header.parse (ofString "field a \x7b\x7d\nx = '2'") =
        .ok [.field "a" [], .option "x" "'2'"] := rfl
    obtain rfl := Except.ok.inj (hitems.symm.trans his)
    exact ⟨_, d, hd, hmerged, hmerged.repeated⟩
  · have h₂ : parse (ofString "\t= '2'") = .error ⟨1, 9⟩ := rfl
    exact (parse_append (by decide) (by decide) (by simp only [← isSeparator_iff]; decide)
      (by simp only [← isSeparator_iff]; decide) h).2 _ h₂

end Examples

end Document

end LineSift
