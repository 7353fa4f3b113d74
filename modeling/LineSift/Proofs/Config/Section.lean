import LineSift.Proofs.Config.Source
import LineSift.Proofs.Rules.Document
import LineSift.Proofs.Text.Lines

/-!
# A section at the end of a configuration

Lines are read into a draft of the configuration.  A line with the name of a new section begins it
(`readLine_section`), and a line `name = value` adds an option to the section that is being read
(`readLine_assignment`).  So a section that is written behind a configuration is one more section of
it, with the options as they are written (`parse_section`).
-/

namespace LineSift

/-! ## Lines with their ends -/

namespace Text

/-- A line feed is a line end whatever stands before it. -/
theorem unifyLineEnds_append (a : Text) :
    ∃ u, ∀ b, unifyLineEnds (a ++ .char '\n' :: b) = u ++ .char '\n' :: unifyLineEnds b := by
  fun_induction unifyLineEnds a with
  | case1 => exact ⟨[], fun b => rfl⟩
  | case2 t ih =>
    obtain ⟨u, hu⟩ := ih
    exact ⟨.char '\n' :: u,
      fun b => by rw [List.cons_append, List.cons_append, unifyLineEnds, hu]; rfl⟩
  | case3 c t hcr ih =>
    obtain ⟨u, hu⟩ := ih
    by_cases hlast : c = .char '\r' ∧ t = []
    · obtain ⟨rfl, rfl⟩ := hlast
      exact ⟨[], fun b => rfl⟩
    · refine ⟨(if c = .char '\r' then .char '\n' else c) :: u, fun b => ?_⟩
      rw [List.cons_append, unifyLineEnds, hu, List.cons_append]
      intro t' hc ht'
      cases t with
      | nil => exact hlast ⟨hc, rfl⟩
      | cons d t =>
        obtain ⟨rfl, -⟩ := List.cons.inj ht'
        exact hcr t hc rfl

/-- Where a text ends with a line feed, or is empty, the lines of what follows come behind
its own. -/
theorem lines_of_append {a : Text} (h : a = [] ∨ a.getLast? = some (.char '\n')) {b : Text}
    (hb : .char '\r' ∉ b) :
    (a ++ b).unifyLineEnds.linesWithEnds = a.unifyLineEnds.linesWithEnds ++ b.linesWithEnds := by
  rcases h with rfl | hlast
  · rw [List.nil_append, unifyLineEnds_eq hb]
    rfl
  obtain ⟨a', rfl⟩ := List.getLast?_eq_some_iff.mp hlast
  obtain ⟨u, hu⟩ := unifyLineEnds_append a'
  rw [List.append_assoc, List.singleton_append, hu, hu, unifyLineEnds_eq hb, linesWithEnds_append]
  rfl

theorem stripRight_concat {c : CodePoint} (hc : c.isSpace = true) (t : Text) :
    stripRight (t ++ [c]) = stripRight t := by
  rw [stripRight, List.reverse_concat, stripLeft, List.dropWhile_cons_of_pos hc]
  rfl

theorem strip_concat {o c : CodePoint} (ho : o.isSpace = false) (hc : c.isSpace = true) (t : Text) :
    strip (o :: (t ++ [c])) = strip (o :: t) := by
  rw [strip, strip, stripLeft_cons ho, stripLeft_cons ho, ← List.cons_append, stripRight_concat hc]

theorem strip_cons {c : CodePoint} (hc : c.isSpace = true) (t : Text) :
    strip (c :: t) = strip t := by
  rw [strip, strip, stripLeft, List.dropWhile_cons_of_pos hc]
  rfl

end Text

namespace Config

/-! ## Single lines -/

/-- An option as it can stand on a line: the name is in lower case, and the value is on one line and
has no white space around it. -/
structure IsPlain (a : Text × Text) : Prop where
  name : Header.IsName a.1
  lower : a.1.lower = a.1
  enclosed : ∃ o b e, a.2 = o :: (b ++ [e]) ∧ o.isSpace = false ∧ e.isSpace = false
  lineFeed : .char '\n' ∉ a.2
  carriageReturn : .char '\r' ∉ a.2

theorem IsPlain.of_value {a : Text × Text} (hname : Header.IsName a.1) (hlower : a.1.lower = a.1)
    (hvalue : Header.IsValue a.2) (hinline : Header.Inline a.2) : IsPlain a :=
  ⟨hname, hlower, hvalue.enclosed, hinline.2.1, hinline.2.2⟩

/-- The text `name = value`. -/
def assignment (a : Text × Text) : Text := a.1 ++ Text.ofString " = " ++ a.2

theorem readLine_item {o : CodePoint} (ho : o.isSpace = false) (hnumber : o ≠ .char '#')
    (hsemicolon : o ≠ .char ';') {t value : Text} (hstrip : Text.strip (o :: t) = o :: value)
    (file : Text) (number : Nat) (d : Draft) :
    readLine file number (o :: t) d = readItem file number (o :: t) { d with indent := 0 } := by
  have hcomment : isComment (o :: value) = false := by simp [isComment, hnumber, hsemicolon]
  have hindent : (o :: t).takeWhile CodePoint.isSpace = [] := by simp [ho]
  unfold readLine
  simp only [hstrip, hcomment, hindent]
  simp

theorem sectionName?_bracketed {sec : Text} (h : sec ≠ []) :
    sectionName? (.char '[' :: (sec ++ [.char ']'])) = some sec := by
  have hreverse : ((sec ++ [CodePoint.char ']']).reverse.dropWhile (· != .char ']')).drop 1 =
      sec.reverse := by
    rw [List.reverse_concat, List.dropWhile_cons_of_neg (by decide)]
    rfl
  obtain ⟨c, t, hc⟩ := List.exists_cons_of_ne_nil (List.reverse_ne_nil_iff.mpr h)
  unfold sectionName?
  simp only [hreverse, hc]
  rw [← hc, List.reverse_reverse]

theorem has_eq_false {α : Type} {table : Assoc α} {key : Text} (h : key ∉ table.keys) :
    table.has key = false :=
  Bool.eq_false_iff.mpr (mt (Assoc.has_iff_mem_keys key table).mp h)

/-- A line with the name of a new section begins it. -/
theorem readLine_section {sec : Text} (hsec : sec ≠ [])
    (hdefault : sec ≠ defaultSection) {d : Draft}
    (hnew : sec ∉ d.sections.keys) (file : Text) (number : Nat) :
    readLine file number (.char '[' :: (sec ++ [.char ']', .char '\n'])) d =
      .ok { d with
        sections := d.sections ++ [(sec, [])]
        current := some sec
        name := []
        indent := 0 } := by
  have hline : .char '[' :: (sec ++ [.char ']', .char '\n']) =
      CodePoint.char '[' :: ((sec ++ [.char ']']) ++ [.char '\n']) := by simp
  have hstrip : Text.strip (.char '[' :: ((sec ++ [.char ']']) ++ [.char '\n'])) =
      .char '[' :: (sec ++ [.char ']']) := by
    rw [Text.strip_concat (by decide) (by decide), Text.strip_enclosed (by decide) (by decide)]
  rw [hline, readLine_item (by decide) (by decide) (by decide) hstrip, readItem, hstrip,
    sectionName?_bracketed hsec]
  dsimp only
  rw [beginSection, if_neg (by simp [has_eq_false hnew]), if_neg hdefault,
    Assoc.put_of_not_mem hnew]

theorem nameAndValue?_assignment {a : Text × Text} (h : IsPlain a) :
    nameAndValue? (assignment a) = some a := by
  obtain ⟨o, b, e, hvalue, ho, he⟩ := h.enclosed
  have hname : ∀ c ∈ a.1 ++ [CodePoint.char ' '], !isDelimiter c := by
    intro c hc
    rcases List.mem_append.mp hc with hc | hc
    · have hpart := h.name.2 c hc
      rw [Bool.not_eq_true']
      by_contra hdelimiter
      simp only [isDelimiter, Bool.not_eq_false, Bool.or_eq_true, beq_iff_eq] at hdelimiter
      rcases hdelimiter with rfl | rfl <;> exact absurd hpart (by decide)
    · rw [List.mem_singleton.mp hc]
      decide
  have hcut :
      assignment a = (a.1 ++ [CodePoint.char ' ']) ++ CodePoint.char '=' :: .char ' ' :: a.2 := by
    simp [assignment, Text.ofString]
  have htake : (assignment a).takeWhile (fun c => !isDelimiter c) = a.1 ++ [.char ' '] := by
    rw [hcut, List.takeWhile_append_of_pos hname, List.takeWhile_cons_of_neg (by decide),
      List.append_nil]
  have hstripName : Text.stripRight (a.1 ++ [.char ' ']) = a.1 := by
    have hstrip := h.name.strip_eq
    obtain ⟨c, t, hc⟩ := List.exists_cons_of_ne_nil h.name.1
    rw [Text.stripRight_concat (by decide)]
    rw [hc] at hstrip ⊢
    rwa [Text.strip, Text.stripLeft_cons (Header.isSpace_of_isNamePart (h.name.2 c (by simp [hc])))]
      at hstrip
  unfold nameAndValue?
  rw [htake]
  dsimp only
  rw [hcut, List.drop_left]
  dsimp only
  rw [hstripName, Text.strip_cons (by decide), hvalue, Text.strip_enclosed ho he, ← hvalue]

/-- The options of the section that is being read last. -/
structure Draft.IsAt (d : Draft) (before : Assoc (Assoc (List Text))) (defaults : Assoc (List Text))
    (sec : Text) (options : Assoc (List Text)) : Prop where
  sections : d.sections = before ++ [(sec, options)]
  defaults : d.defaults = defaults
  current : d.current = some sec
  badLines : d.badLines = []

variable {before : Assoc (Assoc (List Text))} {defaults options : Assoc (List Text)} {sec : Text}

theorem readItem_assignment (hdefault : sec ≠ defaultSection) (hsec : sec ∉ before.keys) {d : Draft}
    (hd : d.IsAt before defaults sec options) {a : Text × Text} (ha : IsPlain a)
    (hnew : a.1 ∉ options.keys) {line : Text} (hline : line.strip = assignment a)
    (hsection : sectionName? (assignment a) = none) (file : Text) (number : Nat) :
    ∃ d', readItem file number line d = .ok d' ∧
      d'.IsAt before defaults sec (options ++ [(a.1, [a.2])]) := by
  obtain ⟨sections, shared, current, name, indent, bad⟩ := d
  obtain ⟨rfl, rfl, rfl, rfl⟩ := hd
  have hown : (Draft.mk (before ++ [(sec, options)]) shared (some sec) name indent []).own sec =
      options := by
    rw [Draft.own, if_neg hdefault, Assoc.get?_append hsec, Assoc.get?, if_pos rfl,
      Option.getD_some]
  unfold readItem
  simp only [hline, hsection, nameAndValue?_assignment ha, if_neg ha.name.1, ha.lower, hown,
    has_eq_false hnew]
  refine ⟨_, rfl, ?_⟩
  rw [Draft.setOwn, if_neg hdefault]
  refine ⟨?_, rfl, rfl, rfl⟩
  dsimp only
  rw [Assoc.put_append hsec, Assoc.put, if_pos rfl, Assoc.put_of_not_mem hnew]

/-- A line `name = value` adds an option to the section that is being read. -/
theorem readLine_assignment (hdefault : sec ≠ defaultSection) (hsec : sec ∉ before.keys) {d : Draft}
    (hd : d.IsAt before defaults sec options) {a : Text × Text} (ha : IsPlain a)
    (hnew : a.1 ∉ options.keys) (file : Text) (number : Nat) :
    ∃ d', readLine file number (assignment a ++ [.char '\n']) d = .ok d' ∧
      d'.IsAt before defaults sec (options ++ [(a.1, [a.2])]) := by
  obtain ⟨c, t, hname⟩ := List.exists_cons_of_ne_nil ha.name.1
  obtain ⟨o, b, e, hvalue, ho, he⟩ := ha.enclosed
  have hpart : Header.isNamePart c := ha.name.2 c (by simp [hname])
  have hspace := Header.isSpace_of_isNamePart hpart
  have hassignment : assignment a = c :: (t ++ Text.ofString " = " ++ o :: b ++ [e]) := by
    simp [assignment, hname, hvalue]
  have hstrip : Text.strip (assignment a ++ [.char '\n']) = assignment a := by
    rw [hassignment, List.cons_append, Text.strip_concat hspace (by decide),
      Text.strip_enclosed hspace he]
  have hnot (x : CodePoint) (hx : Header.isNamePart x = false) : c ≠ x := by
    rintro rfl
    rw [hx] at hpart
    cases hpart
  have hsection : sectionName? (assignment a) = none := by
    rw [hassignment]
    unfold sectionName?
    split
    · next heq => exact absurd (List.cons.inj heq).1 (hnot _ (by decide))
    · rfl
  have hitem : readLine file number (assignment a ++ [.char '\n']) d =
      readItem file number (assignment a ++ [.char '\n']) { d with indent := 0 } := by
    rw [hassignment, List.cons_append] at hstrip ⊢
    exact readLine_item hspace (hnot _ (by decide)) (hnot _ (by decide)) hstrip file number d
  have hunindented : ({ d with indent := 0 } : Draft).IsAt before defaults sec options :=
    ⟨hd.sections, hd.defaults, hd.current, hd.badLines⟩
  rw [hitem]
  exact readItem_assignment hdefault hsec hunindented ha hnew hstrip hsection file number

/-- Lines `name = value` with names of their own, one after the other. -/
theorem readLines_assignments (hdefault : sec ≠ defaultSection) (hsec : sec ∉ before.keys)
    {attributes : List (Text × Text)} (hplain : ∀ a ∈ attributes, IsPlain a)
    (hdistinct : (attributes.map (·.1)).Nodup) (hnew : ∀ a ∈ attributes, a.1 ∉ options.keys)
    {d : Draft} (hd : d.IsAt before defaults sec options) (file : Text) (number : Nat) :
    ∃ d', readLines file number (attributes.map fun a => assignment a ++ [CodePoint.char '\n']) d =
      .ok d' ∧
      d'.IsAt before defaults sec (options ++ attributes.map fun a => (a.1, [a.2])) := by
  induction attributes generalizing options d number with
  | nil =>
    refine ⟨d, rfl, ?_⟩
    rwa [List.map_nil, List.append_nil]
  | cons a attributes ih =>
    obtain ⟨ha, hplain⟩ := List.forall_mem_cons.mp hplain
    obtain ⟨hafresh, hnew⟩ := List.forall_mem_cons.mp hnew
    obtain ⟨hother, hdistinct⟩ := List.nodup_cons.mp hdistinct
    obtain ⟨d₁, hread, hd₁⟩ := readLine_assignment hdefault hsec hd ha hafresh file number
    have hnew' : ∀ a' ∈ attributes, a'.1 ∉ Assoc.keys (options ++ [(a.1, [a.2])]) := by
      intro a' ha' hmem
      rw [Assoc.keys, List.map_append, List.mem_append] at hmem
      rcases hmem with hmem | hmem
      · exact hnew a' ha' hmem
      · have heq : a'.1 = a.1 := by simpa using hmem
        exact hother (List.mem_map.mpr ⟨a', ha', heq⟩)
    obtain ⟨d₂, hrest, hd₂⟩ := ih hplain hdistinct hnew' hd₁ (number + 1)
    refine ⟨d₂, ?_, ?_⟩
    · rw [List.map_cons, readLines, hread]
      exact hrest
    · rw [List.append_assoc] at hd₂
      exact hd₂

/-! ## The section -/

theorem readLines_append (file : Text) (number : Nat) (ls ms : List Text) (d : Draft) :
    readLines file number (ls ++ ms) d =
      (readLines file number ls d).bind (readLines file (number + ls.length) ms) := by
  induction ls generalizing number d with
  | nil => rfl
  | cons l ls ih =>
    rw [List.cons_append, readLines, readLines]
    cases readLine file number l d with
    | error e => rfl
    | ok d' =>
      have hnumber : number + 1 + ls.length = number + (l :: ls).length := by
        rw [List.length_cons]
        omega
      rw [Except.bind, ih, hnumber]
      rfl

/-- Options on a line each. -/
def assignmentLines (attributes : List (Text × Text)) : Text :=
  attributes.flatMap fun a => assignment a ++ [.char '\n']

/-- A section as it is written. -/
def sectionText (sec : Text) (attributes : List (Text × Text)) : Text :=
  .char '[' :: (sec ++ [.char ']', .char '\n']) ++ assignmentLines attributes

theorem IsPlain.name_not_mem {a : Text × Text} (h : IsPlain a) {c : CodePoint}
    (hc : Header.isNamePart c = false) : c ∉ a.1 := by
  intro hmem
  have hpart := h.name.2 c hmem
  rw [hc] at hpart
  cases hpart

theorem IsPlain.not_mem_assignment {a : Text × Text} (h : IsPlain a) :
    .char '\n' ∉ assignment a ∧ .char '\r' ∉ assignment a := by
  have hlineFeed := h.name_not_mem (c := .char '\n') (by decide)
  have hreturn := h.name_not_mem (c := .char '\r') (by decide)
  simp [assignment, Text.ofString, hlineFeed, hreturn, h.lineFeed, h.carriageReturn]

variable {attributes : List (Text × Text)}

theorem linesWithEnds_assignments (hplain : ∀ a ∈ attributes, IsPlain a) :
    (assignmentLines attributes).linesWithEnds =
      attributes.map fun a => assignment a ++ [.char '\n'] := by
  induction attributes with
  | nil => rfl
  | cons a attributes ih =>
    obtain ⟨ha, hplain⟩ := List.forall_mem_cons.mp hplain
    rw [assignmentLines] at ih ⊢
    rw [List.flatMap_cons, List.append_assoc, List.singleton_append,
      Text.linesWithEnds_line ha.not_mem_assignment.1, ih hplain, List.map_cons]

theorem linesWithEnds_sectionText (hsec : .char '\n' ∉ sec) (hplain : ∀ a ∈ attributes, IsPlain a) :
    (sectionText sec attributes).linesWithEnds =
      (.char '[' :: (sec ++ [.char ']', .char '\n'])) ::
        attributes.map fun a => assignment a ++ [.char '\n'] := by
  have hcut (t : Text) : .char '[' :: (sec ++ [.char ']', .char '\n']) ++ t =
      (.char '[' :: (sec ++ [CodePoint.char ']'])) ++ .char '\n' :: t := by simp
  have hname : .char '\n' ∉ CodePoint.char '[' :: (sec ++ [.char ']']) := by simp [hsec]
  rw [sectionText, hcut, Text.linesWithEnds_line hname, linesWithEnds_assignments hplain]
  simp

theorem carriageReturn_not_mem_sectionText (hsec : .char '\r' ∉ sec)
    (hplain : ∀ a ∈ attributes, IsPlain a) : .char '\r' ∉ sectionText sec attributes := by
  simp only [sectionText, assignmentLines, List.mem_append, List.mem_flatMap, not_or, not_exists,
    not_and]
  refine ⟨by simp [hsec], fun a ha => ⟨(hplain a ha).not_mem_assignment.2, by simp⟩⟩

/-- Reading a file that is text. -/
theorem parse_eq {bytes : Bytes} {t : Text} (h : Encoding.decodeStrict bytes = .ok t)
    (file : Text) :
    parse file bytes = (readLines file 1 t.unifyLineEnds.linesWithEnds {}).bind fun d =>
      if d.badLines ≠ [] then .error (.badLines file d.badLines) else .ok d.finish := by
  unfold parse
  rw [Source.ofBytes_eq h]
  dsimp only
  cases readLines file 1 t.unifyLineEnds.linesWithEnds {} with
  | error e => rfl
  | ok d =>
    simp only [bind, Except.bind]
    split <;> rfl

theorem IsPlain.joinValue_eq {a : Text × Text} (h : IsPlain a) : joinValue [a.2] = a.2 := by
  obtain ⟨o, b, e, hvalue, ho, he⟩ := h.enclosed
  have hstrip := Text.strip_enclosed ho he b
  rw [Text.strip, Text.stripLeft_cons ho] at hstrip
  rw [joinValue, Text.join, hvalue]
  exact hstrip

theorem keys_finish (d : Draft) : d.finish.sections.keys = d.sections.keys := by
  rw [Draft.finish, Assoc.keys, Assoc.keys, List.map_map]
  rfl

/-- **A section behind a configuration.**  A configuration that can be read ends with a line feed,
or is empty.  With a section of another name behind it, it can be read as well, and has that section
too, with the options that are written there. -/
theorem parse_section {file : Text} {bytes bytes' : Bytes} {front : Text} {user : Config}
    (hfront : Encoding.decodeStrict bytes = .ok front) (hparse : parse file bytes = .ok user)
    (hends : front = [] ∨ front.getLast? = some (.char '\n'))
    (hbytes : Encoding.decodeStrict bytes' = .ok (front ++ sectionText sec attributes))
    (hsec : sec ≠ []) (hdefault : sec ≠ defaultSection)
    (hline : .char '\n' ∉ sec ∧ .char '\r' ∉ sec) (hnew : sec ∉ user.sections.keys)
    (hplain : ∀ a ∈ attributes, IsPlain a) (hdistinct : (attributes.map (·.1)).Nodup) :
    parse file bytes' = .ok { user with sections := user.sections ++ [(sec, attributes)] } := by
  rw [parse_eq hfront] at hparse
  rw [parse_eq hbytes, Text.lines_of_append hends
    (carriageReturn_not_mem_sectionText hline.2 hplain), linesWithEnds_sectionText hline.1 hplain,
    readLines_append]
  cases hread : readLines file 1 front.unifyLineEnds.linesWithEnds {} with
  | error e =>
    rw [hread] at hparse
    cases hparse
  | ok d =>
    rw [hread, Except.bind] at hparse
    rw [Except.bind]
    by_cases hbad : d.badLines = []
    · rw [if_neg (not_not_intro hbad)] at hparse
      cases hparse
      rw [keys_finish] at hnew
      have hbegun : ({ d with
          sections := d.sections ++ [(sec, [])]
          current := some sec
          name := []
          indent := 0 } : Draft).IsAt d.sections d.defaults sec [] := ⟨rfl, rfl, rfl, hbad⟩
      obtain ⟨d', hread', hd'⟩ := readLines_assignments hdefault hnew hplain hdistinct
        (fun a _ => List.not_mem_nil) hbegun file (1 + front.unifyLineEnds.linesWithEnds.length + 1)
      rw [readLines, readLine_section hsec hdefault hnew]
      have hvalues : attributes.map (fun a => (a.1, joinValue [a.2])) = attributes :=
        (List.map_congr_left fun a ha => by rw [(hplain a ha).joinValue_eq]; rfl).trans
          (List.map_id _)
      simp only [Except.bind, hread', hd'.badLines]
      simp [Draft.finish, hd'.sections, hd'.defaults, hvalues, Function.comp_def]
    · rw [if_pos hbad] at hparse
      cases hparse

end Config

end LineSift
