import LineSift.Proofs.Config.Defaults
import LineSift.Proofs.Config.Section
import LineSift.Proofs.RuleSet.Loaded
import LineSift.Proofs.RuleSet.Simple
import LineSift.Proofs.Rules.Sections

/-!
# Fields in a configuration and in rules

A field can stand in a section of a configuration or in a rules file.  Its attributes are written
alike, but they are read by different readers, and its samples are checked at different places.
Both readers hand on what is written (`Config.parse_section`, `parse_fieldText`), so the field is
the same in both places, or it fails for the same kind of reason (`globalFields_alike`).
-/

namespace LineSift

/-- What attributes as they are written come to: a field that matches its samples, or the kind of
the failure. -/
def Field.checked (name : Text) (written : Assoc Text) : Except Kind Field :=
  ((ofAttributes name written).mapError Error.kind).bind fun f =>
    if f.badSample?.isSome then .error .validation else .ok f

theorem Field.load_apply {ε : Type} (wrap : Error → ε) (name : Text) (written : Assoc Text)
    (log : Log) :
    ∃ log', load wrap name written log = ((ofAttributes name written).mapError wrap, log') := by
  unfold load
  cases ofAttributes name written with
  | error e => exact ⟨log, rfl⟩
  | ok f =>
    have hf : Logged.ofExcept wrap (.ok f) log = (.ok f, log) := rfl
    rw [Effect.bind_ok hf]
    split
    · exact ⟨_, rfl⟩
    · exact ⟨_, rfl⟩

/-! ## In the configuration -/

namespace Config

variable {c : Config} {name : Text} {attributes : List (Text × Text)}

/-- Sections without the mark of a field do not matter. -/
theorem fieldsOf_filter (c : Config) (check : Bool) (fields : Assoc Field) (secs : List Text) :
    fieldsOf c check fields secs = fieldsOf c check fields (secs.filter fieldMark.isPrefixOf) := by
  induction secs generalizing fields with
  | nil => rfl
  | cons sec secs ih =>
    by_cases hsec : fieldMark.isPrefixOf sec
    · rw [List.filter_cons_of_pos hsec, fieldsOf, if_pos hsec, fieldsOf, if_pos hsec]
      simp only [ih]
    · rw [List.filter_cons_of_neg hsec, fieldsOf, if_neg hsec, ih]

/-- The only field of a configuration, with its samples checked. -/
theorem globalFields_single (hname : Header.IsName name)
    (h : c.sections.keys.filter fieldMark.isPrefixOf = [fieldMark ++ name]) :
    (c.globalFields true).outcome.1.mapError Error.kind =
      (Field.checked name (c.options (fieldMark ++ name))).map fun f => [(name, f)] := by
  have hmark : fieldMark.isPrefixOf (fieldMark ++ name) := by simp
  obtain ⟨log, hload⟩ := Field.load_apply Error.field name (c.options (fieldMark ++ name)) []
  unfold globalFields Logged.outcome Field.checked
  rw [fieldsOf_filter, h, fieldsOf, if_pos hmark, List.drop_left, hname.strip_eq]
  change ((((Field.load Error.field name (c.options (fieldMark ++ name)) >>= _ :
    Logged Error (Assoc Field))) []).1).mapError Error.kind = _
  rw [Effect.bind_apply, hload]
  cases Field.ofAttributes name (c.options (fieldMark ++ name)) with
  | error e => rfl
  | ok f =>
    cases hbad : f.badSample? <;> simp only [Except.mapError, Except.bind, Except.map, hbad] <;> rfl

/-- A section with options of its own has just these, if there are no others by default. -/
theorem options_eq {sec : Text} (hsec : sec ≠ defaultSection)
    (hget : c.sections.get? sec = some attributes)
    (hdefaults : ∀ key ∈ c.defaults.keys, key ∈ attributes.map (·.1))
    (hlower : ∀ a ∈ attributes, a.1.lower = a.1) (hdistinct : (attributes.map (·.1)).Nodup) :
    c.options sec = attributes := by
  have hown : c.own? sec = some attributes := (own?_of_ne hsec).trans hget
  have hvalue : ∀ a ∈ attributes, c.value sec a.1 = .ok a.2 := by
    intro a ha
    rw [value_eq_ok]
    refine ⟨attributes, hown, ?_⟩
    rw [hlower a ha, Assoc.get?_of_mem hdistinct ha, Option.some_or]
  have hnames : c.optionNames sec = attributes.map (·.1) := by
    have hnone : c.defaults.keys.filter (fun key => !Assoc.has key attributes) = [] := by
      rw [List.filter_eq_nil_iff]
      intro key hkey
      rw [(Assoc.has_iff_mem_keys key attributes).mpr (hdefaults key hkey)]
      simp
    rw [optionNames, hown, Option.getD_some, hnone, List.append_nil]
    rfl
  rw [options, hnames, List.filterMap_map]
  calc attributes.filterMap ((fun n => (c.value sec n).toOption.map (n, ·)) ∘ (·.1))
      = attributes.filterMap some := List.filterMap_congr fun a ha => by
        rw [Function.comp_apply, hvalue a ha]
        rfl
    _ = attributes := List.filterMap_some

/-- Other sections than those of fields can be added. -/
theorem filter_keys_put {sec : Text} (h : ¬ fieldMark.isPrefixOf sec) (c : Config) (n v : Text) :
    (c.put sec n v).sections.keys.filter fieldMark.isPrefixOf =
      c.sections.keys.filter fieldMark.isPrefixOf := by
  rw [put, Assoc.keys_put]
  split
  · rfl
  · rw [List.filter_append, List.filter_cons_of_neg h, List.filter_nil, List.append_nil]

theorem filter_keys_addMissing {sec : Text} (h : ¬ fieldMark.isPrefixOf sec) (options : Assoc Text)
    (c : Config) :
    (options.foldl (addMissing sec) c).sections.keys.filter fieldMark.isPrefixOf =
      c.sections.keys.filter fieldMark.isPrefixOf := by
  induction options generalizing c with
  | nil => rfl
  | cons o options ih =>
    rw [List.foldl_cons, ih, addMissing]
    split
    · rfl
    · exact filter_keys_put h c _ _

theorem filter_keys_addSections {ss : Assoc (Assoc Text)}
    (h : ∀ s ∈ ss, ¬ fieldMark.isPrefixOf s.1) (c : Config) :
    (ss.foldl addSection c).sections.keys.filter fieldMark.isPrefixOf =
      c.sections.keys.filter fieldMark.isPrefixOf := by
  induction ss generalizing c with
  | nil => rfl
  | cons s ss ih =>
    obtain ⟨hs, hss⟩ := List.forall_mem_cons.mp h
    rw [List.foldl_cons, ih hss, addSection, filter_keys_addMissing hs]

/-- A configuration in which one section alone defines a field, and no options by default but those
that it has itself. -/
structure Defines (c : Config) (sec : Text) (attributes : List (Text × Text)) : Prop where
  section_eq : c.sections.get? sec = some attributes
  defaults : ∀ key ∈ c.defaults.keys, key ∈ attributes.map (·.1)
  only : c.sections.keys.filter fieldMark.isPrefixOf = [sec]

/-- It stays so when the name of the file is noted and the packaged options are added. -/
theorem Defines.completed {sec : Text} (h : c.Defines sec attributes)
    (hsec : fieldMark.isPrefixOf sec) (path : Text) (complete : Bool) :
    Defines (if complete then (c.put generalSection "base_filename" path).withDefaults packaged
      else c.put generalSection "base_filename" path) sec attributes := by
  have hgeneral : ¬ fieldMark.isPrefixOf generalSection := by decide
  have hpackaged : ∀ s ∈ packaged.sections, ¬ fieldMark.isPrefixOf s.1 := by decide +kernel
  have hput : Defines (c.put generalSection "base_filename" path) sec attributes := by
    refine ⟨?_, h.defaults, (filter_keys_put hgeneral c _ _).trans h.only⟩
    have hne : generalSection ≠ sec := by
      rintro rfl
      exact hgeneral hsec
    rw [get?_sections_put, if_neg hne]
    exact h.section_eq
  split
  · refine ⟨?_, ?_, ?_⟩
    · have hnot : sec ∉ packaged.sections.keys := by
        intro hmem
        obtain ⟨s, hs, rfl⟩ := List.mem_map.mp hmem
        exact hpackaged s hs hsec
      rw [withDefaults_eq, get?_addSections_of_ne hnot, hput.section_eq]
    · rw [(keeps_withDefaults _ _).defaults]
      exact hput.defaults
    · rw [withDefaults_eq, filter_keys_addSections hpackaged, hput.only]
  · exact hput

end Config

/-! ## In rules -/

namespace RuleSet

/-- A field as it is written in a rules file, with its attributes on a line each. -/
def fieldText (name : Text) (attributes : List (Text × Text)) : Text :=
  Text.ofString "field " ++ (name ++ (Text.ofString " \x7b\n" ++
    (Config.assignmentLines attributes ++ Text.ofString "\x7d\n")))

variable {name : Text} {attributes : List (Text × Text)}

open Header (Token Laid Gap)

theorem laid_assignments {ts : List Token} {t : Text} (h : Laid ts t)
    (attributes : List (Text × Text)) :
    Laid (attributes.flatMap Header.assignment ++ ts) (Config.assignmentLines attributes ++ t) := by
  induction attributes with
  | nil => exact h
  | cons a attributes ih =>
    have hcut : Config.assignmentLines (a :: attributes) ++ t =
        [] ++ (a.1 ++ ([CodePoint.char ' '] ++ ([] ++ ([CodePoint.char '='] ++
          ([CodePoint.char ' '] ++ ([] ++ (a.2 ++ ([CodePoint.char '\n'] ++
            (Config.assignmentLines attributes ++ t))))))))) := by
      simp [Config.assignmentLines, Config.assignment, Text.ofString]
    rw [hcut]
    exact .other .nil (.space .nil) rfl <| .other .nil (.space .nil) rfl <|
      .other .nil (.lineFeed .nil) rfl ih

/-- The text of a field writes this field. -/
theorem writes_fieldText (hname : Header.IsName name)
    (hattributes : ∀ a ∈ attributes, Header.IsName a.1 ∧ Header.IsValue a.2 ∧ Header.Inline a.2) :
    Header.Writes [.field name attributes] (fieldText name attributes) := by
  refine ⟨_, .field (w := Text.ofString "field") .nil, ?valid, ?laid⟩
  case valid =>
    simp only [List.forall_mem_cons, List.forall_mem_append, List.mem_flatMap]
    refine ⟨Header.isKeyword_field, hname, by simp [Token.Valid], ?_, by simp [Token.Valid],
      by simp⟩
    rintro tok ⟨a, ha, htok⟩
    obtain ⟨hkey, hvalue, hinline⟩ := hattributes a ha
    simp only [Header.assignment, List.mem_cons, List.not_mem_nil, or_false] at htok
    rcases htok with rfl | rfl | rfl
    · exact hkey
    · simp [Token.Valid]
    · exact ⟨hvalue, hinline⟩
  case laid =>
    have hcut : fieldText name attributes = [] ++ (Text.ofString "field" ++ ([CodePoint.char ' '] ++
        ([] ++ (name ++ ([CodePoint.char ' '] ++ ([] ++ ([CodePoint.char '\x7b'] ++
          ([CodePoint.char '\n'] ++ (Config.assignmentLines attributes ++
            ([] ++ ([CodePoint.char '\x7d'] ++ ([CodePoint.char '\n'] ++ [])))))))))))) := by
      simp [fieldText, Text.ofString]
    rw [hcut]
    exact .cons .nil (.space .nil) (by simp) <| .other .nil (.space .nil) rfl <|
      .other .nil (.lineFeed .nil) rfl <| laid_assignments
        (.other .nil (.lineFeed .nil) rfl (.nil .nil)) attributes

/-- A separator is nothing but dashes, spaces and tabs. -/
theorem isSeparator_eq_false {line : Text} {c : CodePoint} (hc : c ∈ line) (hdash : c ≠ .char '-')
    (hblank : c.isBlank = false) : Document.isSeparator line = false := by
  rw [Bool.eq_false_iff, ne_eq, Document.isSeparator_iff]
  rintro ⟨before, after, n, rfl, hbefore, hafter⟩
  simp only [List.mem_append] at hc
  rcases hc with (hc | hc) | hc
  · exact absurd (hbefore c hc) (by simp [hblank])
  · exact hdash (List.eq_of_mem_replicate hc)
  · exact absurd (hafter c hc) (by simp [hblank])

theorem lines_assignments (hplain : ∀ a ∈ attributes, Config.IsPlain a) (t : Text) :
    (Config.assignmentLines attributes ++ t).lines =
      attributes.map Config.assignment ++ t.lines := by
  induction attributes with
  | nil => rfl
  | cons a attributes ih =>
    obtain ⟨ha, hplain⟩ := List.forall_mem_cons.mp hplain
    have hcut : Config.assignmentLines (a :: attributes) ++ t =
        Config.assignment a ++ .char '\n' :: (Config.assignmentLines attributes ++ t) := by
      simp [Config.assignmentLines]
    rw [hcut, Text.lines_append_lineFeed ha.not_mem_assignment.2 ha.not_mem_assignment.1, ih hplain,
      List.map_cons, List.cons_append]

theorem not_mem_of_isName (hname : Header.IsName name) {c : CodePoint}
    (hc : Header.isNamePart c = false) : c ∉ name := fun hmem =>
  Bool.false_ne_true (hc.symm.trans (hname.2 c hmem))

/-- No line of the text of a field is a separator. -/
theorem isSeparator_fieldText (hname : Header.IsName name)
    (hplain : ∀ a ∈ attributes, Config.IsPlain a) :
    ∀ line ∈ (fieldText name attributes).lines, Document.isSeparator line = false := by
  have hfirst : fieldText name attributes =
      (Text.ofString "field " ++ (name ++ Text.ofString " \x7b")) ++ .char '\n' ::
        (Config.assignmentLines attributes ++ Text.ofString "\x7d\n") := by
    simp [fieldText, Text.ofString]
  have hreturn : .char '\r' ∉ Text.ofString "field " ++ (name ++ Text.ofString " \x7b") := by
    simp [Text.ofString, not_mem_of_isName hname (c := .char '\r') (by decide)]
  have hlineFeed : .char '\n' ∉ Text.ofString "field " ++ (name ++ Text.ofString " \x7b") := by
    simp [Text.ofString, not_mem_of_isName hname (c := .char '\n') (by decide)]
  rw [hfirst, Text.lines_append_lineFeed hreturn hlineFeed, lines_assignments hplain]
  intro line hline
  simp only [List.mem_cons, List.mem_append, List.mem_map] at hline
  rcases hline with rfl | ⟨a, -, rfl⟩ | hline
  · exact isSeparator_eq_false (c := .char 'f') (by simp [Text.ofString]) (by decide) (by decide)
  · exact isSeparator_eq_false (c := .char '=') (by simp [Config.assignment, Text.ofString])
      (by decide) (by decide)
  · have hend : ∀ line ∈ (Text.ofString "\x7d\n").lines, Document.isSeparator line = false := by
      decide
    exact hend line hline

theorem carriageReturn_not_mem_fieldText (hname : Header.IsName name)
    (hplain : ∀ a ∈ attributes, Config.IsPlain a) : .char '\r' ∉ fieldText name attributes := by
  have hlines : .char '\r' ∉ Config.assignmentLines attributes := by
    simp only [Config.assignmentLines, List.mem_flatMap, List.mem_append, not_exists,
      not_and, not_or]
    exact fun a ha => ⟨(hplain a ha).not_mem_assignment.2, by simp⟩
  have hnot := not_mem_of_isName hname (c := .char '\r') (by decide)
  simp [fieldText, Text.ofString, hlines, hnot]

/-- Attributes as they can be written in a configuration and in rules alike. -/
def Writable (attributes : List (Text × Text)) : Prop :=
  (attributes.map (·.1)).Nodup ∧
    ∀ a ∈ attributes, Header.IsName a.1 ∧ a.1.lower = a.1 ∧ Header.IsValue a.2 ∧ Header.Inline a.2

theorem Writable.isPlain (h : Writable attributes) : ∀ a ∈ attributes, Config.IsPlain a := by
  intro a ha
  obtain ⟨hname, hlower, hvalue, hinline⟩ := h.2 a ha
  exact .of_value hname hlower hvalue hinline

/-- The text of a field is a document of this field alone. -/
theorem parse_fieldText (hname : Header.IsName name) (h : Writable attributes) :
    Document.parse (fieldText name attributes) = .ok { fields := [(name, attributes)] } := by
  have hcut := Document.cutAtSeparator_of_none (isSeparator_fieldText hname h.isPlain)
  have hparse : Header.parse (Text.join [.char '\n'] (fieldText name attributes).lines) =
      .ok [.field name attributes] := by
    rw [Text.join_lines, Text.unifyLineEnds_eq (carriageReturn_not_mem_fieldText hname h.isPlain)]
    exact Header.parse_of_writes (writes_fieldText hname fun a ha =>
      ⟨(h.2 a ha).1, (h.2 a ha).2.2.1, (h.2 a ha).2.2.2⟩)
  have hstrip : attributes.map (fun a => (Text.strip a.1, Text.strip a.2)) = attributes :=
    (List.map_congr_left fun a ha =>
      Prod.ext (h.2 a ha).1.strip_eq (h.2 a ha).2.2.1.strip_eq).trans (List.map_id _)
  rw [Document.parse, hcut]
  simp only [Document.cutAtSeparator, hparse, Except.map, List.foldl_cons, List.foldl_nil,
    Document.add, hname.strip_eq, hstrip, Assoc.ofList_of_nodup h.1]
  rfl

theorem ofRules_without_templates {r : Rules} (hopening : r.opening = [])
    (htemplates : r.templates = []) : ∃ rs, ofRules r = .ok rs ∧ rs.toRules = r := by
  unfold ofRules
  rw [if_pos hopening, htemplates]
  exact ⟨_, rfl, rfl⟩

/-- The only field of rules, with its samples checked. -/
theorem readFields_single (source : Option Text) (name : Text) (written : Assoc Text) (log : Log) :
    ∃ result log', readFields source [] [(name, written)] log = (result, log') ∧
      result.mapError Error.kind = (Field.checked name written).map fun f => [(name, f)] := by
  obtain ⟨log', hload⟩ :=
    Field.load_apply (fun e => (⟨source, .field name e⟩ : Error)) name written log
  rw [readFields, Effect.bind_apply, hload, Field.checked]
  cases Field.ofAttributes name written with
  | error e => exact ⟨_, _, rfl, rfl⟩
  | ok f =>
    cases hbad : f.badSample? <;>
      simp only [Except.mapError, Except.bind, Except.map, hbad] <;> exact ⟨_, _, rfl, rfl⟩

/-- The rules of a document with a single field. -/
theorem ofText_single {text : Text} {attributes : Assoc Text}
    (hparse : Document.parse text = .ok { fields := [(name, attributes)] }) {policy : Text}
    (hpolicy : (RepeatPolicy.ofText? policy).isSome) (globals : Assoc Field)
    (source : Option Text) :
    ((ofText globals source policy text).outcome.1.mapError Error.kind).map (·.fields) =
      (Field.checked name attributes).map fun f => [(name, f)] := by
  obtain ⟨log, hload⟩ := ofText_of_document hparse rfl hpolicy globals source
  obtain ⟨result, log', hfields, hresult⟩ := readFields_single source name attributes log
  rw [← hresult, hload]
  change ((((readFields source [] [(name, attributes)] >>= fun fields =>
    Logged.ofExcept id (ofRules { source, fields, globals }) : Loading RuleSet) log).1).mapError
      Error.kind).map (·.fields) = _
  rw [Effect.bind_apply, hfields]
  cases result with
  | error e => rfl
  | ok fields =>
    obtain ⟨rs, hrs, hrules⟩ := ofRules_without_templates (r := { source, fields, globals }) rfl rfl
    dsimp only
    rw [hrs]
    change Except.ok rs.fields = Except.ok fields
    rw [hrules]

end RuleSet

/-! ## The same field -/

namespace Config

open RuleSet (Writable fieldText RepeatPolicy)
open Effect (mapError_eq_error map_eq_error)

/-- Two loaders that both come to what the attributes of a field come to. -/
theorem alike_of_checked {name : Text} {attributes : Assoc Text} {x : Except Error (Assoc Field)}
    {y : Except RuleSet.Error RuleSet}
    (hx : x.mapError Error.kind = (Field.checked name attributes).map fun f => [(name, f)])
    (hy : (y.mapError RuleSet.Error.kind).map (·.fields) =
      (Field.checked name attributes).map fun f => [(name, f)]) :
    (∃ f r, x = .ok [(name, f)] ∧ y = .ok r ∧ r.fields = [(name, f)]) ∨
      ∃ e e', x = .error e ∧ y = .error e' ∧ e.kind = e'.kind := by
  cases hchecked : Field.checked name attributes with
  | error k =>
    rw [hchecked] at hx hy
    obtain ⟨e, rfl, he⟩ := mapError_eq_error hx
    obtain ⟨e', rfl, he'⟩ := mapError_eq_error (map_eq_error hy)
    exact Or.inr ⟨e, e', rfl, rfl, he.trans he'.symm⟩
  | ok f =>
    rw [hchecked] at hx hy
    cases y with
    | error e' => cases hy
    | ok r => exact Or.inl ⟨f, r, Effect.mapError_eq_ok.mp hx, rfl, Except.ok.inj hy⟩

/-- **A field means the same in a configuration and in rules.**  A section with the attributes of
a field stands at the end of a configuration that can be read, defines no other field and has no
other options by default.  Then the configuration is opened, and its global fields and the rules
with the same attributes either both come to the same field, or both fail, and for the same kind
of reason. -/
theorem globalFields_alike {path front : Text} {bytes bytes' : Bytes} {user : Config} {w : World}
    {name : Text} {attributes : List (Text × Text)}
    (hfront : Encoding.decodeStrict bytes = .ok front) (hparse : parse path bytes = .ok user)
    (hends : front = [] ∨ front.getLast? = some (.char '\n'))
    (hfields : ∀ sec ∈ user.sections.keys, ¬ fieldMark.isPrefixOf sec)
    (hdefaults : ∀ key ∈ user.defaults.keys, key ∈ attributes.map (·.1))
    (hname : Header.IsName name) (hattributes : Writable attributes)
    (hbytes : w.store.bytesAt path = .ok bytes')
    (htext : Encoding.decodeStrict bytes' =
      .ok (front ++ sectionText (fieldMark ++ name) attributes))
    {policy : Text} (hpolicy : (RepeatPolicy.ofText? policy).isSome) (environment : Option Text)
    (complete verbose : Bool) (globals : Assoc Field) (source : Option Text) :
    ∃ c, openAt (some path) environment complete verbose w = (.ok c, w) ∧
      let inConfig := (c.globalFields true).outcome.1
      let inRules := (RuleSet.ofText globals source policy (fieldText name attributes)).outcome.1
      (∃ f r, inConfig = .ok [(name, f)] ∧ inRules = .ok r ∧ r.fields = [(name, f)]) ∨
        ∃ e e', inConfig = .error e ∧ inRules = .error e' ∧ e.kind = e'.kind := by
  have hmark : fieldMark.isPrefixOf (fieldMark ++ name) := by simp
  have hsec : fieldMark ++ name ≠ [] := List.append_ne_nil_of_left_ne_nil (by decide) _
  have hdefault : fieldMark ++ name ≠ defaultSection := by
    intro heq
    rw [heq] at hmark
    exact absurd hmark (by decide)
  have hline : .char '\n' ∉ fieldMark ++ name ∧ .char '\r' ∉ fieldMark ++ name := by
    have hmarkLine : .char '\n' ∉ fieldMark ∧ .char '\r' ∉ fieldMark := by decide
    simp only [List.mem_append, not_or]
    exact ⟨⟨hmarkLine.1, RuleSet.not_mem_of_isName hname (by decide)⟩,
      hmarkLine.2, RuleSet.not_mem_of_isName hname (by decide)⟩
  have hnew : fieldMark ++ name ∉ user.sections.keys := fun hmem => hfields _ hmem hmark
  have hread := parse_section hfront hparse hends htext hsec hdefault hline hnew hattributes.isPlain
    hattributes.1
  refine ⟨_, openAt_of_parse rfl hbytes hread complete verbose, ?_⟩
  -- both come to what the attributes come to
  have hdefines :
      Defines { user with sections := user.sections ++ [(fieldMark ++ name, attributes)] }
      (fieldMark ++ name) attributes := by
    refine ⟨?_, hdefaults, ?_⟩
    · rw [Assoc.get?_append hnew, Assoc.get?, if_pos rfl]
    · have hkeys : Assoc.keys (user.sections ++ [(fieldMark ++ name, attributes)]) =
          user.sections.keys ++ [fieldMark ++ name] := by simp [Assoc.keys]
      rw [hkeys, List.filter_append, List.filter_eq_nil_iff.mpr hfields,
        List.filter_cons_of_pos hmark, List.filter_nil, List.nil_append]
  have hcompleted := hdefines.completed hmark path complete
  generalize (if complete then _ else _ : Config) = c at hcompleted ⊢
  have hoptions := options_eq hdefault hcompleted.section_eq hcompleted.defaults
    (fun a ha => (hattributes.2 a ha).2.1) hattributes.1
  have hconfig := globalFields_single hname hcompleted.only
  rw [hoptions] at hconfig
  exact alike_of_checked hconfig
    (RuleSet.ofText_single (RuleSet.parse_fieldText hname hattributes) hpolicy globals source)

/-- A field with a colon, a comma and brackets in its values, behind a section of another kind. -/
theorem globalFields_alike_number :
    let attributes := [(Text.ofString "pattern", Text.ofString "'[0-9,:]+'"),
      (Text.ofString "samples", Text.ofString "[\"1\", `2:3`]")]
    let front := Text.ofString "[rules]\nduplicate_fields = error\n"
    let bytes :=
      Encoding.encode (front ++ sectionText (fieldMark ++ Text.ofString "n-1") attributes)
    ∃ c f r, openAt (some (Text.ofString "c")) none true false (.ofFile "c" ⟨7, bytes⟩) =
        (.ok c, .ofFile "c" ⟨7, bytes⟩) ∧
      (c.globalFields true).outcome.1 = .ok [(Text.ofString "n-1", f)] ∧
      (RuleSet.ofText [] none "warn" (fieldText "n-1" attributes)).outcome.1 = .ok r ∧
      r.fields = [(Text.ofString "n-1", f)] := by
  intro attributes front bytes
  have hname : Header.IsName (Text.ofString "n-1") := ⟨by decide, by decide⟩
  have hpattern : Header.IsValue (Text.ofString "'[0-9,:]+'") :=
    .string (.single (b := Text.ofString "[0-9,:]+") ⟨fun before behind h => by
      have hmem : CodePoint.char '\'' ∈ Text.ofString "[0-9,:]+" := h ▸ by simp
      exact absurd hmem (by decide), by decide⟩)
  have hsamples : Header.IsValue (Text.ofString "[\"1\", `2:3`]") := by
    have hnone : Header.Spaces [] := List.forall_mem_nil _
    have hspace : Header.Spaces [.char ' '] := List.forall_mem_singleton.mpr rfl
    have hfirst : Header.Quoted (Text.ofString "\"1\"") :=
      .double (b := [.char '1']) (.plain (by decide) (by decide) .nil)
    have hsecond : Header.Quoted (Text.ofString "`2:3`") :=
      .raw (b := Text.ofString "2:3") (by decide)
    have helements : Header.Elements Header.Spaces [Text.ofString "\"1\"", Text.ofString "`2:3`"]
        (Text.ofString "\"1\", `2:3`") :=
      .more (s := Text.ofString "\"1\"") hnone hspace (.last (s := Text.ofString "`2:3`") hnone)
    exact .list (List.forall_mem_cons.mpr ⟨hfirst, List.forall_mem_singleton.mpr hsecond⟩)
      (.elements hnone helements)
  have hwritable : Writable attributes := by
    refine ⟨by decide, List.forall_mem_cons.mpr ⟨⟨⟨by decide, by decide⟩, ?_, hpattern, ?_⟩,
      List.forall_mem_singleton.mpr ⟨⟨by decide, by decide⟩, ?_, hsamples, ?_⟩⟩⟩
    · decide +kernel
    · refine ⟨?_, ?_, ?_⟩ <;> decide
    · decide +kernel
    · refine ⟨?_, ?_, ?_⟩ <;> decide
  have hfront : Encoding.decodeStrict (Encoding.encode front) = .ok front := by decide +kernel
  have hparse : parse "c" (Encoding.encode front) =
      .ok ⟨[("rules", [("duplicate_fields", "error")])], []⟩ := by decide +kernel
  have hbytes : (World.ofFile "c" ⟨7, bytes⟩).store.bytesAt "c" = .ok bytes := by decide +kernel
  have htext : Encoding.decodeStrict bytes =
      .ok (front ++ sectionText (fieldMark ++ Text.ofString "n-1") attributes) := by decide +kernel
  have hends : front = [] ∨ front.getLast? = some (.char '\n') := by decide
  have hpolicy : (RepeatPolicy.ofText? "warn").isSome := by decide
  obtain ⟨c, hopen, halike⟩ :=
    globalFields_alike hfront hparse hends (by decide) (by simp [Assoc.keys])
    hname hwritable hbytes htext hpolicy none true false [] none
  rcases halike with ⟨f, r, hconfig, hrules, hsame⟩ | ⟨e, e', -, hrules, -⟩
  · exact ⟨c, f, r, hopen, hconfig, hrules, hsame⟩
  · have hok :
        ((RuleSet.ofText [] none "warn" (fieldText "n-1" attributes)).outcome.1).isOk = true := by
      decide +kernel
    rw [hrules] at hok
    cases hok

end Config

end LineSift
