import LineSift.Proofs.Alike
import LineSift.Proofs.Assoc

/-!
# Options that are not given

Completing a configuration with packaged options leaves every value that it gives as it is
(`keeps_withDefaults`), and an option that it does not give gets the packaged value
(`value_withDefaults`).  What the default section says counts as given, and this is asked anew for
each option, because the section may have been added for an earlier one.  So it is overlooked once:
for the first packaged option of a section that is not there yet (`default_overlooked`).
-/

namespace LineSift.Config

variable {c c' c'' p : Config} {sec name : Text} {v : Text}

/-! ## Values -/

theorem own?_of_ne (h : sec ≠ defaultSection) : c.own? sec = c.sections.get? sec := if_neg h

theorem value_eq_ok : c.value sec name = .ok v ↔
    ∃ options, c.own? sec = some options ∧
      (options.get? name.lower).or (c.defaults.get? name.lower) = some v := by
  unfold value
  cases c.own? sec with
  | none => simp
  | some options =>
    dsimp only
    cases h : (options.get? name.lower).or (c.defaults.get? name.lower) with
    | none =>
      constructor
      · intro hv
        cases hv
      · rintro ⟨_, ⟨⟩, hv⟩
        rw [h] at hv
        cases hv
    | some w =>
      constructor
      · intro hv
        cases hv
        exact ⟨options, rfl, h⟩
      · rintro ⟨_, ⟨⟩, hv⟩
        rw [h] at hv
        cases hv
        rfl

theorem has_iff : c.has sec name = true ↔ ∃ v, c.value sec name = .ok v := by
  unfold has
  cases c.value sec name <;> simp [Except.isOk, Except.toBool]

@[simp] theorem put_defaults (c : Config) (sec name v : Text) :
    (c.put sec name v).defaults = c.defaults := rfl

theorem get?_sections_put (c : Config) (sec name v s : Text) :
    (c.put sec name v).sections.get? s =
      if sec = s then some (((c.sections.get? sec).getD []).put name.lower v)
      else c.sections.get? s :=
  Assoc.get?_put _ _ _ _

theorem get?_sections_put_ne_none {s : Text} (h : c.sections.get? s ≠ none) :
    (c.put sec name v).sections.get? s ≠ none := by
  rw [get?_sections_put]
  split
  · simp
  · exact h

theorem value_put_self (h : sec ≠ defaultSection) : (c.put sec name v).value sec name = .ok v := by
  rw [value_eq_ok, own?_of_ne h, get?_sections_put, if_pos rfl]
  refine ⟨_, rfl, ?_⟩
  rw [Assoc.get?_put, if_pos rfl, Option.some_or]

/-- Another option keeps its value when one is put. -/
theorem value_put_of_ne {s n w : Text} (h : s ≠ sec ∨ n.lower ≠ name.lower)
    (hw : c.value s n = .ok w) : (c.put sec name v).value s n = .ok w := by
  obtain ⟨options, hown, hget⟩ := value_eq_ok.mp hw
  rw [value_eq_ok]
  by_cases hs : s = defaultSection
  · subst hs
    exact ⟨options, hown, hget⟩
  rw [own?_of_ne hs] at hown ⊢
  rw [get?_sections_put]
  split
  · next heq =>
    subst heq
    have hn : n.lower ≠ name.lower := h.resolve_left fun h => h rfl
    refine ⟨_, rfl, ?_⟩
    rw [hown, Option.getD_some, Assoc.get?_put, if_neg hn.symm]
    exact hget
  · exact ⟨options, hown, hget⟩

theorem own?_put_of_ne {s : Text} (h : s ≠ sec) : (c.put sec name v).own? s = c.own? s := by
  unfold own?
  split
  · rfl
  · rw [get?_sections_put, if_neg h.symm]

/-- Another section is the same after an option is put. -/
theorem value_put_section {s : Text} (h : s ≠ sec) (n : Text) :
    (c.put sec name v).value s n = c.value s n := by
  unfold value
  rw [own?_put_of_ne h, put_defaults]

theorem options_put_of_ne {s : Text} (h : s ≠ sec) :
    (c.put sec name v).options s = c.options s := by
  unfold options optionNames
  rw [own?_put_of_ne h, put_defaults]
  simp only [value_put_section h]

/-! ## What is kept -/

/-- Every section and every value of a configuration is in another one as well. -/
structure Keeps (c c' : Config) : Prop where
  defaults : c'.defaults = c.defaults
  sections : ∀ {sec}, c.sections.get? sec ≠ none → c'.sections.get? sec ≠ none
  value : ∀ {sec name v}, c.value sec name = .ok v → c'.value sec name = .ok v

theorem Keeps.refl (c : Config) : Keeps c c := ⟨rfl, id, id⟩

theorem Keeps.trans (h : Keeps c c') (h' : Keeps c' c'') : Keeps c c'' :=
  ⟨h'.defaults.trans h.defaults, fun hs => h'.sections (h.sections hs),
    fun hv => h'.value (h.value hv)⟩

theorem Keeps.foldl {α : Type} {f : Config → α → Config} (h : ∀ c a, Keeps c (f c a)) (as : List α)
    (c : Config) : Keeps c (as.foldl f c) := by
  induction as generalizing c with
  | nil => exact .refl c
  | cons a as ih => exact (h c a).trans (ih _)

/-- The configuration with an option, unless it has one of this name. -/
def addMissing (sec : Text) (c : Config) (o : Text × Text) : Config :=
  if c.has sec o.1 then c else c.put sec o.1 o.2

/-- The configuration with those options of a section that it does not have. -/
def addSection (c : Config) (s : Text × Assoc Text) : Config := s.2.foldl (addMissing s.1) c

theorem withDefaults_eq (c p : Config) : c.withDefaults p = p.sections.foldl addSection c := rfl

theorem keeps_addMissing (sec : Text) (c : Config) (o : Text × Text) :
    Keeps c (addMissing sec c o) := by
  unfold addMissing
  split
  · exact .refl c
  · next hnot =>
    refine ⟨rfl, get?_sections_put_ne_none, fun {s n w} hw => value_put_of_ne ?_ hw⟩
    by_contra hsame
    push Not at hsame
    obtain ⟨rfl, hn⟩ := hsame
    apply hnot
    rw [has_iff]
    refine ⟨w, ?_⟩
    rw [value_eq_ok] at hw ⊢
    rwa [hn] at hw

theorem keeps_addSection (c : Config) (s : Text × Assoc Text) : Keeps c (addSection c s) :=
  .foldl (keeps_addMissing s.1) _ _

/-- **Completing a configuration** keeps all of its values. -/
theorem keeps_withDefaults (c p : Config) : Keeps c (c.withDefaults p) :=
  .foldl keeps_addSection _ _

/-! ## What is added -/

/-- What a configuration says about an option of a section: there, or else in its
default section. -/
def given? (c : Config) (sec name : Text) : Option Text :=
  ((c.sections.get? sec).bind fun options => options.get? name).or (c.defaults.get? name)

/-- Where the section is there, what is given is the value. -/
theorem value_of_given? (hsec : sec ≠ defaultSection) (hname : name.lower = name)
    (hthere : c.sections.get? sec ≠ none) (h : c.given? sec name = some v) :
    c.value sec name = .ok v := by
  obtain ⟨options, hoptions⟩ := Option.ne_none_iff_exists'.mp hthere
  rw [given?, hoptions] at h
  rw [value_eq_ok, own?_of_ne hsec, hname]
  exact ⟨options, hoptions, h⟩

theorem given?_of_value (hsec : sec ≠ defaultSection) (hname : name.lower = name)
    (h : c.value sec name = .ok v) : c.given? sec name = some v := by
  obtain ⟨options, hown, hget⟩ := value_eq_ok.mp h
  rw [own?_of_ne hsec] at hown
  rw [hname] at hget
  rw [given?, hown]
  exact hget

theorem get?_addMissing_of_ne {s : Text} (h : s ≠ sec) (c : Config) (o : Text × Text) :
    (addMissing sec c o).sections.get? s = c.sections.get? s := by
  unfold addMissing
  split
  · rfl
  · rw [get?_sections_put, if_neg h.symm]

theorem get?_addSection_of_ne {s : Text} (h : s ≠ sec) (options : Assoc Text) (c : Config) :
    (addSection c (sec, options)).sections.get? s = c.sections.get? s := by
  unfold addSection
  induction options generalizing c with
  | nil => rfl
  | cons o options ih =>
    rw [List.foldl_cons, ih]
    exact get?_addMissing_of_ne h c o

theorem get?_addSections_of_ne {ss : Assoc (Assoc Text)} (h : sec ∉ ss.keys) (c : Config) :
    (ss.foldl addSection c).sections.get? sec = c.sections.get? sec := by
  induction ss generalizing c with
  | nil => rfl
  | cons s ss ih =>
    obtain ⟨hs, hss⟩ := List.ne_and_not_mem_of_not_mem_cons h
    rw [List.foldl_cons, ih hss, get?_addSection_of_ne hs s.2]

/-- After an option has been looked for, its section is there. -/
theorem get?_addMissing_ne_none (hsec : sec ≠ defaultSection) (c : Config) (o : Text × Text) :
    (addMissing sec c o).sections.get? sec ≠ none := by
  unfold addMissing
  split
  · next hhas =>
    obtain ⟨v, hv⟩ := has_iff.mp hhas
    obtain ⟨options, hown, -⟩ := value_eq_ok.mp hv
    rw [← own?_of_ne hsec, hown]
    simp
  · simp [get?_sections_put]

theorem given?_addMissing_of_ne {o : Text × Text} (ho : o.1.lower = o.1) (h : name ≠ o.1)
    (c : Config) : (addMissing sec c o).given? sec name = c.given? sec name := by
  unfold addMissing
  split
  · rfl
  · rw [given?, given?, get?_sections_put, if_pos rfl, ho, Option.bind_some, Assoc.get?_put,
      if_neg h.symm, put_defaults]
    cases c.sections.get? sec <;> rfl

/-- What the default section says about an option is not asked for: the section is not there, and
the option is the first of those that are added to it. -/
def Overlooked (options : Assoc Text) (c : Config) (sec name : Text) : Prop :=
  c.sections.get? sec = none ∧ options.keys.head? = some name ∧ c.defaults.get? name ≠ none

theorem value_addMissing_self (hsec : sec ≠ defaultSection) (hname : name.lower = name)
    (h : c.sections.get? sec ≠ none ∨ c.defaults.get? name = none) :
    (addMissing sec c (name, v)).value sec name = .ok ((c.given? sec name).getD v) := by
  unfold addMissing
  split
  · next hhas =>
    obtain ⟨w, hw⟩ := has_iff.mp hhas
    rw [given?_of_value hsec hname hw]
    exact hw
  · next hnot =>
    have hnone : c.given? sec name = none := by
      rcases h with hthere | hdefault
      · rw [Option.eq_none_iff_forall_ne_some]
        intro w hw
        exact hnot (has_iff.mpr ⟨w, value_of_given? hsec hname hthere hw⟩)
      · rw [Option.eq_none_iff_forall_ne_some]
        intro w hw
        by_cases hthere : c.sections.get? sec = none
        · rw [given?, hthere, hdefault] at hw
          cases hw
        · exact hnot (has_iff.mpr ⟨w, value_of_given? hsec hname hthere hw⟩)
    rw [hnone]
    exact value_put_self hsec

/-- The options of a section after those that were missing have been added. -/
theorem value_addSection (hsec : sec ≠ defaultSection) {options : Assoc Text}
    (hlower : ∀ o ∈ options, o.1.lower = o.1) (hdistinct : options.keys.Nodup)
    (hseen : ¬ Overlooked options c sec name) (h : (name, v) ∈ options) :
    (addSection c (sec, options)).value sec name = .ok ((c.given? sec name).getD v) := by
  induction options generalizing c with
  | nil => cases h
  | cons o options ih =>
    obtain ⟨n, w⟩ := o
    obtain ⟨hn, hlower⟩ := List.forall_mem_cons.mp hlower
    obtain ⟨hfresh, hdistinct⟩ := List.nodup_cons.mp hdistinct
    have hstep : addSection c (sec, (n, w) :: options) =
        addSection (addMissing sec c (n, w)) (sec, options) := rfl
    rw [hstep]
    rcases List.mem_cons.mp h with heq | hmem
    · cases heq
      apply (keeps_addSection _ _).value
      apply value_addMissing_self hsec hn
      by_contra hboth
      push Not at hboth
      exact hseen ⟨hboth.1, rfl, hboth.2⟩
    · have hname : name ∈ Assoc.keys options := List.mem_map.mpr ⟨_, hmem, rfl⟩
      have hne : name ≠ n := by
        rintro rfl
        exact hfresh hname
      rw [← given?_addMissing_of_ne hn hne c]
      refine ih hlower hdistinct ?_ hmem
      intro hover
      exact get?_addMissing_ne_none hsec _ _ hover.1

/-- A configuration as it is packaged: no section and no option stands twice, the names of options
are in lower case, and there is no default section among the others. -/
structure IsTidy (p : Config) : Prop where
  sections : p.sections.keys.Nodup
  default_not_mem : defaultSection ∉ p.sections.keys
  options : ∀ s ∈ p.sections, s.2.keys.Nodup ∧ ∀ o ∈ s.2, o.1.lower = o.1

theorem packaged_isTidy : IsTidy packaged := by
  constructor <;> decide +kernel

/-- **The options of a completed configuration**: what is given there or in the default section, or
else the packaged value. -/
theorem value_withDefaults (hp : p.IsTidy) {options : Assoc Text} (hs : (sec, options) ∈ p.sections)
    (ho : (name, v) ∈ options) (hseen : ¬ Overlooked options c sec name) :
    (c.withDefaults p).value sec name = .ok ((c.given? sec name).getD v) := by
  have hsec : sec ≠ defaultSection := by
    rintro rfl
    exact hp.default_not_mem (List.mem_map_of_mem hs)
  obtain ⟨hdistinct, hlower⟩ := hp.options _ hs
  have hsections := hp.sections
  obtain ⟨before, after, hsplit⟩ := List.append_of_mem hs
  rw [withDefaults_eq, hsplit, List.foldl_append, List.foldl_cons]
  apply (Keeps.foldl keeps_addSection _ _).value
  -- the sections before leave what is said about this one as it is
  have hbefore : sec ∉ Assoc.keys before := by
    rw [hsplit, Assoc.keys, List.map_append, List.map_cons] at hsections
    exact fun hmem => (List.nodup_append.mp hsections).2.2 _ hmem _ List.mem_cons_self rfl
  have hget := get?_addSections_of_ne hbefore c
  have hdefaults := (Keeps.foldl keeps_addSection before c).defaults
  have hgiven : (before.foldl addSection c).given? sec name = c.given? sec name := by
    rw [given?, given?, hget, hdefaults]
  rw [← hgiven]
  refine value_addSection hsec hlower hdistinct ?_ ho
  rwa [Overlooked, hget, hdefaults]

/-! ## A configuration from a file -/

/-- Opening a configuration that can be read. -/
theorem openAt_of_parse {given environment : Option Text} {path : Text} {w : World} {bytes : Bytes}
    {user : Config} (hgiven : given.or environment = some path)
    (hbytes : w.store.bytesAt path = .ok bytes) (hparse : parse path bytes = .ok user)
    (complete verbose : Bool) :
    openAt given environment complete verbose w =
      (.ok (if complete then (user.put generalSection "base_filename" path).withDefaults packaged
        else user.put generalSection "base_filename" path), w) := by
  have hfile : fromFile path w = (.ok (user.put generalSection "base_filename" path), w) := by
    rw [fromFile_apply, Store.found_of_bytesAt hbytes, hbytes]
    dsimp only
    rw [hparse]
    rfl
  unfold openAt
  rw [hgiven]
  dsimp only
  rw [Effect.bind_ok hfile]
  rfl

/-- **What a user says wins.**  A configuration that can be read is opened and completed.  A
packaged option then has the value of the section in the user's file, or else that of the user's
default section, or else the packaged one, unless the user's default section is overlooked: for the
first option of a section that the file does not have.  And all that the file says holds, but for
the option with the name of the file. -/
theorem openAt_given_wins {given environment : Option Text} {path : Text} {w : World}
    {bytes : Bytes} {user : Config} (hgiven : given.or environment = some path)
    (hbytes : w.store.bytesAt path = .ok bytes) (hparse : parse path bytes = .ok user)
    (verbose : Bool) :
    ∃ c, openAt given environment true verbose w = (.ok c, w) ∧
      (∀ sec options name v, (sec, options) ∈ packaged.sections → (name, v) ∈ options →
        (sec = generalSection ∨ ¬ Overlooked options user sec name) →
        c.value sec name = .ok ((user.given? sec name).getD v)) ∧
      (∀ sec, user.sections.get? sec ≠ none → c.sections.get? sec ≠ none) ∧
      (∀ sec name v, (sec, name.lower) ≠ (generalSection, Text.ofString "base_filename") →
        user.value sec name = .ok v → c.value sec name = .ok v) ∧
      c.value generalSection "base_filename" = .ok path := by
  have hlower : Text.lower (Text.ofString "base_filename") = Text.ofString "base_filename" := by
    decide +kernel
  have hgeneral : generalSection ≠ defaultSection := by decide
  have hkeeps := keeps_withDefaults (user.put generalSection "base_filename" path) packaged
  refine ⟨(user.put generalSection "base_filename" path).withDefaults packaged,
    openAt_of_parse hgiven hbytes hparse true verbose, ?_, ?_, ?_, ?_⟩
  · intro sec options name v hs ho hseen
    have hname : sec = generalSection → Text.ofString "base_filename" ≠ name := by
      rintro rfl rfl
      have hnone : ∀ s ∈ packaged.sections, ∀ o ∈ s.2, o.1 ≠ Text.ofString "base_filename" := by
        decide
      exact hnone _ hs _ ho rfl
    have hput : (user.put generalSection "base_filename" path).given? sec name =
        user.given? sec name := by
      rw [given?, given?, get?_sections_put, put_defaults]
      split
      · next heq =>
        rw [← heq, hlower, Option.bind_some, Assoc.get?_put, if_neg (hname heq.symm)]
        cases user.sections.get? generalSection <;> rfl
      · rfl
    rw [← hput]
    refine value_withDefaults packaged_isTidy hs ho ?_
    rintro ⟨hnone, hfirst, hdefault⟩
    rw [get?_sections_put] at hnone
    split at hnone
    · cases hnone
    · next hne => exact hseen.elim (fun h => hne h.symm) fun h => h ⟨hnone, hfirst, hdefault⟩
  · intro sec hsec
    exact hkeeps.sections (get?_sections_put_ne_none hsec)
  · intro sec name v hne hv
    refine hkeeps.value (value_put_of_ne ?_ hv)
    by_contra hsame
    push Not at hsame
    obtain ⟨rfl, hsame⟩ := hsame
    exact hne (by rw [hsame, hlower])
  · exact hkeeps.value (value_put_self hgeneral)

/-- A file with options in its default section and in one of the packaged ones. -/
theorem openAt_given_wins_process :
    let w := World.ofFile "c"
      ⟨7, Encoding.encode "[DEFAULT]\nencoding = l1\n[process]\nbatch_size = 5\n"⟩
    ∃ c, openAt (some (Text.ofString "c")) none true false w = (.ok c, w) ∧
      c.value "process" "batch_size" = .ok "5" ∧ c.value "process" "encoding" = .ok "l1" ∧
      c.value "process" "encoding_errors" = .ok "replace" ∧
      c.value "general" "base_filename" = .ok "c" := by
  intro w
  have hbytes : w.store.bytesAt "c" =
      .ok (Encoding.encode "[DEFAULT]\nencoding = l1\n[process]\nbatch_size = 5\n") := by
    decide +kernel
  let user : Config := ⟨[("process", [("batch_size", "5")])], [("encoding", "l1")]⟩
  have hparse :
      parse "c" (Encoding.encode "[DEFAULT]\nencoding = l1\n[process]\nbatch_size = 5\n") =
      .ok user := by
    decide +kernel
  have hgiven : (some (Text.ofString "c")).or none = some (Text.ofString "c") := rfl
  obtain ⟨c, hopen, hpackaged, -, -, hname⟩ := openAt_given_wins hgiven hbytes hparse false
  have hprocess (name v : Text) (h : (name, v) ∈ optionList [("batch_size", "20"),
      ("encoding", "utf-8"), ("encoding_errors", "replace")]) :
      c.value "process" name = .ok ((user.given? "process" name).getD v) := by
    refine hpackaged "process" _ name v (by simp [packaged]) h (Or.inr ?_)
    rintro ⟨hnone, -⟩
    exact absurd hnone (by decide +kernel)
  refine ⟨c, hopen, ?_, ?_, ?_, hname⟩
  · exact hprocess "batch_size" "20" (by simp [optionList])
  · exact hprocess "encoding" "utf-8" (by simp [optionList])
  · exact hprocess "encoding_errors" "replace" (by simp [optionList])

/-- A value of the default section is overlooked for the first option of a section that is not
there, and counts for the next option. -/
theorem default_overlooked :
    let bytes := Encoding.encode "[DEFAULT]\nbatch_size = 5\nencoding = l1\n"
    ∃ user c, parse "c" bytes = .ok user ∧
      (openAt (some (Text.ofString "c")) none true false (.ofFile "c" ⟨7, bytes⟩)).1 = .ok c ∧
      user.sections = [] ∧ user.defaults.get? "batch_size" = some (Text.ofString "5") ∧
      c.value "process" "batch_size" = .ok "20" ∧ c.value "process" "encoding" = .ok "l1" := by
  intro bytes
  have hparse : parse "c" bytes = .ok ⟨[], [("batch_size", "5"), ("encoding", "l1")]⟩ := by
    decide +kernel
  have hopen : (openAt (some (Text.ofString "c")) none true false (.ofFile "c" ⟨7, bytes⟩)).1 =
      .ok ((⟨[], [("batch_size", "5"), ("encoding", "l1")]⟩ : Config).put generalSection
        "base_filename" "c" |>.withDefaults packaged) := by
    decide +kernel
  refine ⟨_, _, hparse, hopen, rfl, ?_, ?_, ?_⟩ <;> decide +kernel

end LineSift.Config
