import LineSift.Proofs.RuleSet.Loaded
import LineSift.Proofs.Rules.Overridden

/-!
# Rules with fields that are defined again

Of a field that is defined again the last definition is used, but in the place of the first.  So
rules without the definitions that are overridden are the same rules with their fields in another
order, and they load as the same rule set where the order is the same (`ofText_blanked`).  Fields
are put into templates one after the other, so another order can give other patterns; and what
stands behind a definition has to stay where it is, or a string before it may go on into that text
(`closed_up_patterns`).
-/

namespace LineSift

namespace RuleSet

open Header (Item fieldNames)

/-! ## Messages do not matter -/

/-- Whether the messages that were left before make no difference to the result of some work. -/
abbrev Unlogged {ε α : Type} (work : Logged ε α) : Prop :=
  Effect.Mirrors (fun _ _ => True) True work work

theorem unlogged_ofExcept {ε δ α : Type} (f : δ → ε) (x : Except δ α) :
    Unlogged (Logged.ofExcept f x) := by
  cases x with
  | error e => exact Effect.mirrors_throw (f e)
  | ok a => exact Effect.mirrors_pure a

theorem unlogged_say {ε : Type} (level : Level) (message : Text) :
    Unlogged (Logged.say level message : Logged ε Unit) := fun _ _ _ _ => ⟨rfl, trivial⟩

theorem unlogged_load {ε : Type} (wrap : Field.Error → ε) (name : Text) (written : Assoc Text) :
    Unlogged (Field.load wrap name written) :=
  (unlogged_ofExcept _ _).bind fun _ _ =>
    Effect.Mirrors.unless (unlogged_say _ _) fun _ => Effect.mirrors_pure _

theorem unlogged_readOpening (source : Option Text) (opening : Text) (options : Assoc Text) :
    Unlogged (readOpening source opening options) := by
  induction options generalizing opening with
  | nil => exact Effect.mirrors_pure _
  | cons option options ih =>
    rw [readOpening]
    split
    · exact (unlogged_ofExcept _ _).bind fun _ _ => ih _
    · exact Effect.mirrors_throw _

theorem unlogged_readFields (source : Option Text) (fields : Assoc Field)
    (written : Assoc (Assoc Text)) : Unlogged (readFields source fields written) := by
  induction written generalizing fields with
  | nil => exact Effect.mirrors_pure _
  | cons entry written ih =>
    rw [readFields]
    refine (unlogged_load _ _ _).bind fun f _ => ?_
    split
    · exact Effect.mirrors_throw _
    · exact ih _

theorem ofDocument_outcome (globals : Assoc Field) (source : Option Text)
    (d : Document) (log : Log) :
    (ofDocument globals source d log).1 = (ofDocument globals source d).outcome.1 := by
  have hunlogged : Unlogged (ofDocument globals source d) :=
    (unlogged_readOpening _ _ _).bind fun _ _ => (unlogged_readFields _ _ _).bind fun _ _ =>
      unlogged_ofExcept _ _
  exact (hunlogged [] log trivial (.inl trivial)).1

/-! ## Fields that are defined again -/

/-- The only option of rules that load is the prefix. -/
theorem key_of_readOpening {source : Option Text} {opening opening' : Text} {options : Assoc Text}
    {log log' : Log} (h : readOpening source opening options log = (.ok opening', log')) :
    ∀ key ∈ options.keys, key = "prefix" := by
  induction options generalizing opening log with
  | nil => exact List.forall_mem_nil _
  | cons option options ih =>
    obtain ⟨key, value⟩ := option
    rw [readOpening] at h
    split at h
    · next hkey =>
      obtain ⟨_, _, -, h⟩ := Effect.of_bind_ok h
      exact List.forall_mem_cons.mpr ⟨hkey, ih h⟩
    · cases h

/-- What has been loaded is what the document of the text says. -/
theorem document_of_ofText {globals : Assoc Field} {source : Option Text} {policy text : Text}
    {r : RuleSet} (h : (ofText globals source policy text).outcome.1 = .ok r) :
    ∃ d, Document.parse text = .ok d ∧ (ofDocument globals source d).outcome.1 = .ok r := by
  have hrun : ofText globals source policy text [] =
      (.ok r, (ofText globals source policy text).outcome.2) := Prod.ext h rfl
  obtain ⟨d, log, hread, hrest⟩ := Effect.of_bind_ok hrun
  obtain ⟨d', log', hparse, hsize⟩ := Effect.of_bind_ok hread
  obtain ⟨_, _, _, hsize⟩ := Effect.of_bind_ok hsize
  obtain rfl : d' = d := Except.ok.inj (congrArg Prod.fst hsize)
  refine ⟨d', of_ofExcept_ok hparse, ?_⟩
  cases hpolicy : RepeatPolicy.ofText? policy with
  | none =>
    rw [hpolicy] at hrest
    cases hrest
  | some p =>
    rw [hpolicy] at hrest
    obtain ⟨_, log₁, -, hdocument⟩ := Effect.of_bind_ok hrest
    rw [← ofDocument_outcome globals source d' log₁, hdocument]

/-- No option of rules that load has a name that begins with a dash. -/
theorem undashed_of_ofDocument {globals : Assoc Field} {source : Option Text} {d : Document}
    {r : RuleSet} (h : (ofDocument globals source d).outcome.1 = .ok r) {is : List Item}
    (hd : Assoc.LastAtFirst Eq (is.filterMap Item.asOption) d.options) : ∀ i ∈ is, i.Undashed := by
  have hrun : ofDocument globals source d [] =
      (.ok r, (ofDocument globals source d).outcome.2) := Prod.ext h rfl
  obtain ⟨opening, log, hopening, -⟩ := Effect.of_bind_ok hrun
  intro i hi
  cases i with
  | field n attributes => trivial
  | option key value =>
    have hmem : key ∈ (is.filterMap Item.asOption).map (·.1) :=
      List.mem_map.mpr ⟨(key, value), List.mem_filterMap.mpr ⟨_, hi, rfl⟩, rfl⟩
    rw [Item.Undashed, key_of_readOpening hopening key (hd.mem_keys.mpr hmem)]
    decide

/-- **A field that is defined again** counts as its last definition in the place of its first.
Overwrite the definitions that are overridden by others behind them.  Then the rules that loaded are
those of the document that is left, with its fields in the order in which their names stood first;
in particular what is left loads as the same rule set where the names stand last in the order in
which they stand first. -/
theorem ofText_blanked {globals : Assoc Field} {source : Option Text}
    {policy text : Text} {r : RuleSet} (h : (ofText globals source policy text).outcome.1 = .ok r) :
    ∃ is, Header.parse (Document.headerText text) = .ok is ∧
      (∃ text', Document.Blanked text text') ∧
      ∀ text', Document.Blanked text text' →
        ∃ d', Document.parse text' = .ok d' ∧ d'.repeated = [] ∧
          d'.fields.keys = (fieldNames is).dedup ∧
          (∃ fields : Assoc (Assoc Text), fields.Perm d'.fields ∧
            fields.keys = (fieldNames is).eraseDups ∧
            (ofDocument globals source { d' with fields := fields }).outcome.1 = .ok r) ∧
          ((fieldNames is).dedup = (fieldNames is).eraseDups →
            ∀ policy', (RepeatPolicy.ofText? policy').isSome →
              (ofText globals source policy' text').outcome.1 = .ok r) := by
  obtain ⟨d, hd, hload⟩ := document_of_ofText h
  obtain ⟨is, his, rfl⟩ := Document.of_parse_ok hd
  have hoptions : Assoc.LastAtFirst Eq (is.filterMap Item.asOption)
      (Document.ofItems text is).options :=
    (Document.Holds.foldl (Header.trimmed_of_parse his)).options
  refine ⟨is, his, Document.exists_blanked his (undashed_of_ofDocument hload hoptions),
    fun text' hb => ?_⟩
  obtain ⟨d', hd', hreordered, htemplates, hsamples⟩ := hb.exists_reordered his
  set d := Document.ofItems text is
  have hsame : ofDocument globals source { d' with fields := d.fields } =
      ofDocument globals source d := by
    simp only [ofDocument, hreordered.options, htemplates, hsamples]
  refine ⟨d', hd', hreordered.repeated, hreordered.last, ⟨d.fields, ?_, hreordered.first, ?_⟩,
    fun horder policy' hpolicy' => ?_⟩
  · exact Assoc.perm_of_get? hreordered.nodup.1 hreordered.nodup.2 fun key =>
      (hreordered.fields key).symm
  · rw [hsame, hload]
  · have hfields : d.fields = d'.fields :=
      Assoc.eq_of_get? hreordered.nodup.1
        (hreordered.first.trans (horder.symm.trans hreordered.last.symm))
        fun key => (hreordered.fields key).symm
    obtain ⟨log, hlog⟩ := ofText_of_document hd' hreordered.repeated hpolicy' globals source
    rw [hlog, ofDocument_outcome, ← hload, ← hsame, hfields]

section Examples

open Text (ofString)

/-- The patterns of a rule set, as they are written. -/
def patterns (r : RuleSet) : Option Text × List Text :=
  (r.openingRegex.map (·.pattern), r.regexes.map (·.pattern))

/-- A header with a part between a string that another quote on its line would make longer and an
option with a quote in its value. -/
def aroundPart (part : String) : Text :=
  ofString ("field b \x7b pattern = `1` template = 'a\\' \x7d " ++ part ++
    " prefix = '\x7d #'\nfield a \x7b pattern = `2` \x7d\n---\na\\")

theorem patterns_aroundPart :
    (ofText [] none "warn" (aroundPart "field a \x7b pattern = `z`\n\x7d")).outcome.1.map patterns =
      .ok (some (ofString "\\A\\\x7d\\ \\#"), [ofString "\\A\\\x7d\\ \\#1\\Z"]) := by
  decide +kernel

/-- A field over two lines is overwritten; it is defined again further down. -/
theorem ofText_blanked_lines : ∃ r,
    (ofText [] none "warn" (aroundPart "field a \x7b pattern = `z`\n\x7d")).outcome.1 = .ok r ∧
    (ofText [] none "ignore" (aroundPart "                       \n ")).outcome.1 = .ok r ∧
    r.patterns = (some (ofString "\\A\\\x7d\\ \\#"), [ofString "\\A\\\x7d\\ \\#1\\Z"]) := by
  have hpatterns := patterns_aroundPart
  cases hload :
    (ofText [] none "warn" (aroundPart "field a \x7b pattern = `z`\n\x7d")).outcome.1 with
  | error e =>
    rw [hload] at hpatterns
    cases hpatterns
  | ok r =>
    rw [hload] at hpatterns
    have hb : Document.Blanked (aroundPart "field a \x7b pattern = `z`\n\x7d")
        (aroundPart "                       \n ") := ⟨by decide +kernel, by decide +kernel⟩
    obtain ⟨is, his, -, hsame⟩ := ofText_blanked hload
    obtain ⟨d', -, -, -, -, hload'⟩ := hsame _ hb
    have hitems :
        Header.parse (Document.headerText (aroundPart "field a \x7b pattern = `z`\n\x7d")) =
        .ok [.field "b" [("pattern", "`1`"), ("template", "'a\\'")],
          .field "a" [("pattern", "`z`")], .option "prefix" "'\x7d #'",
          .field "a" [("pattern", "`2`")]] := by
      decide +kernel
    obtain rfl := Except.ok.inj (hitems.symm.trans his)
    exact ⟨r, rfl, hload' (by decide) "ignore" (by decide), Except.ok.inj hpatterns⟩

/-- Without the field that is overridden the patterns can be others: the field that overrides it
comes to stand behind another one, which is then put in first.  And where the text behind the field
closes up, a string before it can go on into that text. -/
theorem closed_up_patterns :
    (Header.parse (ofString "field a \x7b template = 'x' pattern = `1` \x7d\n") =
        .ok [.field "a" [("template", "'x'"), ("pattern", "`1`")]] ∧
      ((ofText [] none "warn" (ofString ("field a \x7b template = 'x' pattern = `1` \x7d\n" ++
        ("field b \x7b template = 'xy' pattern = `2` \x7d\n" ++
          "field a \x7b template = 'x' pattern = `1` \x7d\n---\nxy")))).outcome.1.map patterns) =
        .ok (none, [ofString "\\A1y\\Z"]) ∧
      ((ofText [] none "warn" (ofString ("field b \x7b template = 'xy' pattern = `2` \x7d\n" ++
        "field a \x7b template = 'x' pattern = `1` \x7d\n---\nxy"))).outcome.1.map patterns) =
        .ok (none, [ofString "\\A2\\Z"])) ∧
    (ofText [] none "warn" (aroundPart "field a \x7b pattern = `z`\n\x7d")).outcome.1.map patterns =
      .ok (some (ofString "\\A\\\x7d\\ \\#"), [ofString "\\A\\\x7d\\ \\#1\\Z"]) ∧
    (ofText [] none "warn" (aroundPart "")).outcome.1.map patterns =
      .ok (none, [ofString "\\Aa\\\\\\Z"]) :=
  ⟨by decide +kernel, patterns_aroundPart, by decide +kernel⟩

end Examples

end RuleSet

end LineSift
