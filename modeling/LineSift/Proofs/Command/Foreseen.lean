import LineSift.Proofs.Command.Untouched
import LineSift.Proofs.Config.Defaults
import LineSift.Proofs.Config.Refusal
import LineSift.Proofs.Scan.Refusal

/-!
# Failures that are not foreseen

A command that fails ends with a message, unless its failure is of a kind that is not foreseen.
Each of these has a reason that can be seen in what the command was given (`Unforeseen`): a switch
for a path without a value, a number out of range in a field or in rules, or the name of an encoding
or of a treatment that is not known.  Every step of a command is accounted for in this way, from
`start_error` up to `run_foreseen`.

An encoding that a system knows but `Encoding.ofName?` does not counts among those that are not
known.  That patterns or saved markers are nested deeper than an interpreter's stack allows is set
aside, as in the readers themselves.
-/

namespace LineSift.Command

open Text (ofString)
open Effect (FailsOnly)

/-- The terminals that differ from a world by messages alone, and in what was printed. -/
abbrev After (w : World) (t : Terminal) : Prop := w.Noted t.world

namespace Act

variable {ε α : Type} {w : World} {I : World → Prop} {P : Failure → Prop}

theorem failsOnly_ofWork {f : ε → Failure} {work : Work ε α}
    (h : FailsOnly I (fun e => P (f e)) work) :
    FailsOnly (fun t => I t.world) P (ofWork f work) := by
  intro t r t' ht heq
  obtain ⟨rfl, rfl⟩ := Prod.mk.inj heq
  rcases hwork : work t.world with ⟨e | a, w'⟩
  · exact h.error ht hwork
  · exact h.ok ht hwork

theorem failsOnly_ofExcept {I : Terminal → Prop} {f : ε → Failure} {x : Except ε α}
    (h : ∀ e, x = .error e → P (f e)) : FailsOnly I P (ofExcept f x) := by
  intro t r t' ht heq
  obtain ⟨rfl, rfl⟩ := Prod.mk.inj heq
  cases x with
  | ok a => exact ht
  | error e => exact h e rfl

theorem failsOnly_say (level : Level) (message : Text) :
    FailsOnly (After w) P (say level message) := by
  intro t r t' ht heq
  cases heq
  exact ht.trans (.tell t.world _)

theorem failsOnly_ofPrinting {printing : Printing α} (h : ∀ e, P (.store e)) :
    FailsOnly (After w) P (ofPrinting printing) := by
  intro t r t' ht heq
  obtain ⟨rfl, rfl⟩ := Prod.mk.inj heq
  cases (printing t.printer).1 with
  | ok a => exact ht
  | error e => exact h e

end Act

section Printing

variable {w : World} {P : Failure → Prop} (hP : ∀ e, P (.store e))

include hP

theorem failsOnly_print (line : Text) : FailsOnly (After w) P (Act.print line) :=
  Act.failsOnly_ofPrinting hP

theorem failsOnly_printAll (lines : List Text) : FailsOnly (After w) P (printAll lines) := by
  induction lines with
  | nil => exact Effect.failsOnly_pure _
  | cons line lines ih => exact (failsOnly_print hP line).bind fun _ _ => ih

theorem failsOnly_printSections (c : Config) (secs : List Text) :
    FailsOnly (After w) P (printSections c secs) := by
  induction secs with
  | nil => exact Effect.failsOnly_pure _
  | cons sec secs ih =>
    refine (failsOnly_print hP _).bind fun _ _ => (failsOnly_printAll hP _).bind fun _ _ => ?_
    exact .bind (Act.failsOnly_ofPrinting hP) fun _ _ => ih

end Printing

/-! ## Reasons -/

/-- A rules file that a command reads, in a world that differs from the given one by
messages alone. -/
inductive RulesFile (n : Name) (o : Options) (c : Config) (w : World) : Text → Prop
  | shown : n = .showRules → RulesFile n o c w (o.operands.headD [])
  | listed {directory path : Text} : directory ∈ o.rules.paths c "rules_dir" →
      RuleSet.IsListed w directory path → RulesFile n o c w path

/-- Why a command can fail in a way that is not foreseen, once its configuration is open. -/
inductive Reason (n : Name) (o : Options) (c : Config) (w : World) : Failure → Prop
  /-- The switch for the directory of rules has no value. -/
  | rulesVoid : o.rules = .void → Reason n o c w .voidLookup
  /-- The switch for the directory of saved markers has no value. -/
  | stateVoid : o.stateDir = .void → Reason n o c w .voidJoin
  /-- A number in a global field is out of range. -/
  | field {e : Config.Error} : Config.Unlabelled c e → Reason n o c w (.config e)
  /-- A number in a rules file is out of range. -/
  | rules {path : Text} {e : RuleSet.Error} : RulesFile n o c w path → RuleSet.Shows w path e →
      Reason n o c w (.rules (.rules e))
  /-- The encoding of log files is not known, or what to do with bytes that it has no text for. -/
  | logFile {s : Scan.Settings} {e : Scan.FileFailure} : settings c = .ok s → Scan.Misnamed s e →
      Reason n o c w (.logFile e)

/-- A failure is reported, or there is a reason why it is not. -/
def Explained (n : Name) (o : Options) (c : Config) (w : World) (e : Failure) : Prop :=
  e.kind.isReported = true ∨ Reason n o c w e

section Reasons

variable {n : Name} {o : Options} {c : Config} {w : World}

theorem explained_store (e : Store.Error) : Explained n o c w (.store e) :=
  Or.inl (Store.Error.reported e)

theorem explained_config {e : Config.Error} (h : c.Told e) : Explained n o c w (.config e) :=
  h.imp_right .field

theorem explained_rules {looked : Text → Prop} {e : RuleSet.LoadError}
    (h : RuleSet.Refused w looked e)
    (hlooked : ∀ p, looked p → RulesFile n o c w p) : Explained n o c w (.rules e) := by
  refine h.imp_right ?_
  rintro ⟨path, e', hpath, rfl, hshows⟩
  exact .rules (hlooked path hpath) hshows

theorem settings_error {e : Config.Error} (h : settings c = .error e) :
    e.kind.isReported = true := by
  rcases Effect.bind_eq_error h with hsize | ⟨size, -, h⟩
  · exact Config.intValue_error hsize
  rcases Effect.bind_eq_error h with hencoding | ⟨encoding, -, h⟩
  · exact Config.value_error hencoding
  rcases Effect.bind_eq_error h with htreatment | ⟨treatment, -, h⟩
  · exact Config.value_error htreatment
  · cases h

theorem targets_error {e : Config.Error} (h : targets c o = .error e) :
    e.kind.isReported = true := by
  unfold targets at h
  split at h
  · cases h
  · exact Config.listValue_error h

/-- The configuration of a check gives the same reasons as the one that is opened. -/
theorem Reason.of_check {v : Text} {e : Failure}
    (h : Reason n o (c.put "rules" "check_samples" v) w e) : Reason n o c w e := by
  have hvalue {sec : Text} (hsec : sec ≠ ofString "rules") (name : Text) :
      (c.put "rules" "check_samples" v).value sec name = c.value sec name :=
    Config.value_put_section hsec name
  cases h with
  | rulesVoid h => exact .rulesVoid h
  | stateVoid h => exact .stateVoid h
  | field h =>
    cases h with
    | @field sec e hmem hmark hbad =>
      have hsec : sec ≠ ofString "rules" := by
        rintro rfl
        exact absurd hmark (by decide)
      rw [Config.options_put_of_ne hsec] at hbad
      refine .field (.field ?_ hmark hbad)
      change sec ∈ Assoc.keys (Assoc.put _ _ _) at hmem
      rw [Assoc.keys_put] at hmem
      split at hmem
      · exact hmem
      · exact (List.mem_append.mp hmem).resolve_right fun h => hsec (List.mem_singleton.mp h)
  | rules hfile hshows =>
    refine .rules ?_ hshows
    cases hfile with
    | shown hn => exact .shown hn
    | listed hdirectory hlisted =>
      refine .listed ?_ hlisted
      unfold PathChoice.paths at hdirectory ⊢
      rwa [hvalue (by decide)] at hdirectory
  | logFile hsettings hmisnamed =>
    refine .logFile ?_ hmisnamed
    rw [← hsettings, settings, settings, Config.intValue, Config.intValue, hvalue (by decide),
      hvalue (by decide), hvalue (by decide)]

/-- A failure that is not reported is one of three kinds. -/
theorem Reason.kind {e : Failure} (h : Reason n o c w e) (hnot : e.kind.isReported = false) :
    e.kind = .badType ∨ e.kind = .overflow ∨ e.kind = .lookup := by
  cases h with
  | rulesVoid | stateVoid => exact Or.inl rfl
  | field h =>
    cases h with
    | field => exact Or.inr (Or.inl (Field.Error.overflow_of_unreported hnot))
  | rules => exact Or.inr (Or.inl (RuleSet.Cause.overflow_of_unreported hnot))
  | logFile _ hmisnamed =>
    obtain ⟨hname⟩ := hmisnamed
    cases hname with
    | encoding => exact Or.inr (Or.inr rfl)
    | @treatment cause lookedUp _ =>
      cases cause with
      | unknown name => exact Or.inr (Or.inr rfl)
      | unsuited => exact Or.inl rfl

end Reasons

/-! ## The steps of a command -/

section Steps

variable {n : Name} {o : Options} {c : Config} {w : World}

theorem directory_cases (c : Config) (option : Text) (choice : PathChoice) (t : Terminal) :
    (∃ e, directory c option choice t = (.error (.config e), t) ∧ e.kind.isReported = true) ∨
    (directory c option choice t = (.ok none, t) ∧ choice = .void) ∨
    ∃ path ∈ choice.paths c option, directory c option choice t = (.ok (some path), t) := by
  cases choice with
  | unnamed =>
    unfold directory PathChoice.paths
    cases hvalue : c.value "general" option with
    | error e => exact Or.inl ⟨e, rfl, Config.value_error hvalue⟩
    | ok path => exact Or.inr (Or.inr ⟨path, List.mem_singleton_self path, rfl⟩)
  | void => exact Or.inr (Or.inl ⟨rfl, rfl⟩)
  | named path => exact Or.inr (Or.inr ⟨path, List.mem_singleton_self path, rfl⟩)

theorem failsOnly_directory (option : Text) (choice : PathChoice) :
    FailsOnly (After w) (Explained n o c w) (directory c option choice) := by
  intro t r t' ht heq
  rcases directory_cases c option choice t with ⟨e, hfail, he⟩ | ⟨hnone, -⟩ | ⟨path, -, hpath⟩
  · rw [hfail] at heq
    cases heq
    exact Or.inl he
  · rw [hnone] at heq
    cases heq
    exact ht
  · rw [hpath] at heq
    cases heq
    exact ht

theorem failsOnly_globalFields (check : Bool) :
    FailsOnly (After w) (Explained n o c w)
      (Act.ofWork .config (Work.ofLogged (Config.globalFields c check))) := by
  refine Act.failsOnly_ofWork
    ((Work.failsOnly_ofLogged (Config.failsAs_globalFields c check) w).mono ?_)
  exact fun e he => explained_config he

theorem failsOnly_value (sec name : Text) :
    FailsOnly (After w) (Explained n o c w) (Act.ofExcept .config (c.value sec name)) :=
  Act.failsOnly_ofExcept fun _ he => Or.inl (Config.value_error he)

theorem failsOnly_loadRules : FailsOnly (After w) (Explained n o c w) (loadRules c o.rules) := by
  unfold loadRules
  refine (failsOnly_directory _ _).bind fun d hex => ?_
  obtain ⟨t, t', -, hd⟩ := hex
  refine (failsOnly_globalFields true).bind fun globals _ => ?_
  refine (Act.failsOnly_say _ _).bind fun _ _ => ?_
  refine .bind (Act.failsOnly_ofExcept fun e he => Or.inl (Config.truthValue_error he))
    fun check _ => ?_
  refine (failsOnly_value _ _).bind fun policy _ => ?_
  rcases directory_cases c "rules_dir" o.rules t with
    ⟨e, hfail, -⟩ | ⟨hnone, hvoid⟩ | ⟨path, hmem, hpath⟩
  · rw [hfail] at hd
    cases hd
  · rw [hnone] at hd
    cases hd
    exact Effect.failsOnly_throw (Or.inr (.rulesVoid hvoid))
  · rw [hpath] at hd
    cases hd
    refine Act.failsOnly_ofWork ((RuleSet.failsOnly_loadDirectory _ _ _ path w).mono fun e he => ?_)
    exact explained_rules he fun p hp => .listed hmem hp

theorem failsOnly_prepareWith :
    FailsOnly (After w) (Explained n o c w) (prepareWith o c) := by
  unfold prepareWith
  refine failsOnly_loadRules.bind fun rules _ => ?_
  refine (failsOnly_directory _ _).bind fun stateDir _ => ?_
  refine .bind (Act.failsOnly_ofExcept fun e he => Or.inl (targets_error he)) fun paths _ => ?_
  refine .unless (Effect.failsOnly_throw (Or.inl rfl)) fun _ => ?_
  refine .bind (Act.failsOnly_ofExcept fun e he => Or.inl (settings_error he)) fun s _ => ?_
  exact Effect.failsOnly_pure _

/-- What is known before log files are processed comes from the configuration and the switches. -/
theorem prepareWith_ok {t t' : Terminal} {p : Prepared} (h : prepareWith o c t = (.ok p, t')) :
    settings c = .ok p.settings ∧ (p.stateDir = none → o.stateDir = .void) := by
  obtain ⟨rules, t₁, -, h⟩ := Effect.of_bind_ok h
  obtain ⟨stateDir, t₂, hdirectory, h⟩ := Effect.of_bind_ok h
  obtain ⟨paths, t₃, -, h⟩ := Effect.of_bind_ok h
  split at h
  · cases h
  obtain ⟨s, t₄, hsettings, h⟩ := Effect.of_bind_ok h
  cases h
  refine ⟨Effect.mapError_eq_ok.mp (congrArg Prod.fst hsettings), ?_⟩
  rintro rfl
  rcases directory_cases c "state_dir" o.stateDir t₁ with
    ⟨e, hfail, -⟩ | ⟨-, hvoid⟩ | ⟨path, -, hpath⟩
  · rw [hfail] at hdirectory
    cases hdirectory
  · exact hvoid
  · rw [hpath] at hdirectory
    cases hdirectory

theorem save_error {d path : Text} {m : Marker} {w w' : World} {e : Marker.SavedError}
    (h : Marker.save d path m w = (.error e, w')) : e.kind.isReported = true := by
  unfold Marker.save at h
  rw [Effect.get_bind] at h
  rcases Effect.bind_cases h with ⟨_, hsay, -⟩ | ⟨_, w₁, -, h⟩
  · cases hsay
  · obtain ⟨e', -, rfl⟩ := Effect.mapError_eq_error (congrArg Prod.fst h)
    exact Store.Error.reported e'

theorem savedMarker_ok (d path : Text) (t : Terminal) :
    ∃ m t', savedMarker d path t = (.ok m, t') := by
  unfold savedMarker
  split
  · exact ⟨_, _, rfl⟩
  · exact ⟨_, _, rfl⟩

section Processing

variable {rules : List RuleSet} {s : Scan.Settings} {stateDir : Option Text}

/-- **Processing a log file** fails for a reason in the settings, or for want of a directory for
saved markers, or the failure is reported. -/
theorem processFile_explained (hsettings : settings c = .ok s)
    (hvoid : stateDir = none → o.stateDir = .void) {path : Text} {t t' : Terminal} {e : Failure}
    (h : processFile rules s o stateDir path t = (.error e, t')) : Explained n o c w e := by
  have hneeded (hnone : stateDir = none) : Explained n o c w .voidJoin :=
    Or.inr (.stateVoid (hvoid hnone))
  rw [processFile_eq] at h
  rcases Effect.bind_cases h with ⟨_, hsay, -⟩ | ⟨_, t₁, -, h⟩
  · cases hsay
  rcases Effect.bind_cases h with ⟨_, hfirst, he⟩ | ⟨last, t₂, -, h⟩
  · cases he
    unfold firstMarker at hfirst
    split at hfirst
    · cases hfirst
    · rcases needed_cases hfirst with ⟨hnone, he, -⟩ | ⟨d, -, hsaved⟩
      · cases he
        exact hneeded hnone
      · obtain ⟨m, t₃, hload⟩ := savedMarker_ok d path t₁
        rw [hload] at hsaved
        cases hsaved
  rw [Effect.lift_bind] at h
  have hscan {f : Scan.FileFailure} (hf : (scan rules s path last t₂).1 = .error f) :
      Explained n o c w (.logFile f) :=
    (Scan.logFile_error hf).imp_right (.logFile hsettings)
  rcases keepMarker_error h with ⟨d, -, m, e', rfl, hsave⟩ | ⟨f, m, hf, -, rfl⟩ |
    ⟨-, ⟨hnone, rfl⟩ | ⟨f, hf, rfl⟩⟩
  · exact Or.inl (save_error hsave)
  · exact hscan hf
  · exact hneeded hnone
  · exact hscan hf

theorem processAll_explained (hsettings : settings c = .ok s)
    (hvoid : stateDir = none → o.stateDir = .void) {paths : List Text}
    {t t' : Terminal} {e : Failure}
    (h : processAll rules s o stateDir paths t = (.error e, t')) : Explained n o c w e := by
  induction paths generalizing t with
  | nil => cases h
  | cons path paths ih =>
    rcases Effect.bind_cases h with ⟨_, hfile, he⟩ | ⟨_, t₁, -, hrest⟩
    · cases he
      exact processFile_explained hsettings hvoid hfile
    · exact ih hrest

end Processing

end Steps

/-! ## Whole commands -/

section Commands

variable {environment : Option Text} {n : Name} {o : Options} {t t' : Terminal} {e : Failure}

/-- Opening the configuration and the place for messages fails for a switch without a value, or the
failure is reported. -/
theorem start_error (h : start environment o t = (.error e, t')) :
    e.kind.isReported = true ∨ (o.config = .void ∧ e = .voidLookup) := by
  rcases Effect.bind_cases h with ⟨_, hopen, he⟩ | ⟨c, t₁, -, h⟩
  · cases he
    have hreported (given : Option Text)
        (h : Act.ofWork .config (Config.openAt given environment true false) t = (.error e, t')) :
        e.kind.isReported = true := by
      have hfails : FailsOnly (After t.world) (fun e => e.kind.isReported = true)
          (Act.ofWork .config (Config.openAt given environment true false)) :=
        Act.failsOnly_ofWork (Config.failsOnly_openAt given environment true false t.world)
      exact hfails.error (.refl _) h
    cases hchoice : o.config with
    | unnamed =>
      rw [hchoice] at hopen
      exact Or.inl (hreported none hopen)
    | void =>
      rw [hchoice] at hopen
      cases hopen
      exact Or.inr ⟨rfl, rfl⟩
    | named path =>
      rw [hchoice] at hopen
      exact Or.inl (hreported (some path) hopen)
  rcases Effect.bind_cases h with ⟨_, hvalue, he⟩ | ⟨path, t₂, -, h⟩
  · cases he
    obtain ⟨e', hnone, rfl⟩ := Effect.mapError_eq_error (congrArg Prod.fst hvalue)
    exact Or.inl (Config.value_error hnone)
  rcases Effect.bind_cases h with ⟨_, htarget, he⟩ | ⟨target, t₃, -, h⟩
  · cases he
    obtain ⟨e', -, rfl⟩ := Effect.mapError_eq_error (congrArg Prod.fst htarget)
    exact Or.inl (Store.Error.reported e')
  · rw [Effect.modify_bind] at h
    split at h <;> cases h

/-- What is done with an open configuration fails, or it could not be opened. -/
theorem withConfig_error {act : Config → Act Unit}
    (h : withConfig environment o act t = (.error e, t')) :
    start environment o t = (.error e, t') ∨
    ∃ c t₁ t₂, start environment o t = (.ok c, t₁) ∧ act c t₁ = (.error e, t₂) := by
  rcases Effect.bind_cases h with ⟨_, hstart, he⟩ | ⟨c, t₁, hstart, h⟩
  · cases he
    exact Or.inl hstart
  · rw [Act.thenAlways_apply] at h
    obtain ⟨he, -⟩ := Prod.mk.inj h
    exact Or.inr ⟨c, t₁, _, hstart, Prod.ext he rfl⟩

/-- Why a command can fail in a way that is not foreseen. -/
inductive Unforeseen (environment : Option Text) (n : Name) (o : Options) (t : Terminal) :
    Failure → Prop
  /-- The switch for the configuration has no value. -/
  | configVoid : o.config = .void → Unforeseen environment n o t .voidLookup
  | opened {c : Config} {t₁ : Terminal} {e : Failure} : start environment o t = (.ok c, t₁) →
      Reason n o c t₁.world e → Unforeseen environment n o t e

/-- A command that begins with its configuration is accounted for if what it does with it is. -/
theorem unforeseen_of_withConfig {act : Config → Act Unit}
    (hact : ∀ c t₁ t₂ e, act c t₁ = (.error e, t₂) → Explained n o c t₁.world e)
    (h : withConfig environment o act t = (.error e, t')) :
    e.kind.isReported = true ∨ Unforeseen environment n o t e := by
  rcases withConfig_error h with hstart | ⟨c, t₁, t₂, hstart, hfail⟩
  · rcases start_error hstart with hreported | ⟨hvoid, rfl⟩
    · exact Or.inl hreported
    · exact Or.inr (.configVoid hvoid)
  · exact (hact c t₁ t₂ e hfail).imp_right (.opened hstart)

theorem runProcess_unforeseen (h : runProcess environment o t = (.error e, t')) :
    e.kind.isReported = true ∨ Unforeseen environment .process o t e := by
  rw [runProcess_apply] at h
  refine unforeseen_of_withConfig ?_ h
  intro c t₁ t₂ e hfail
  rcases Effect.bind_cases hfail with ⟨_, hprepare, he⟩ | ⟨p, t₃, hprepare, hall⟩
  · cases he
    exact failsOnly_prepareWith.error (.refl _) hprepare
  · obtain ⟨hsettings, hvoid⟩ := prepareWith_ok hprepare
    exact processAll_explained hsettings hvoid hall

theorem runCheck_unforeseen (h : runCheck environment o t = (.error e, t')) :
    e.kind.isReported = true ∨ Unforeseen environment .check o t e := by
  refine unforeseen_of_withConfig ?_ h
  intro c t₁ t₂ e hfail
  have hchecks : FailsOnly (After t₁.world) (Explained .check o c t₁.world)
      (loadRules (c.put "rules" "check_samples" "true") o.rules) :=
    failsOnly_loadRules.mono fun e he => he.imp_right .of_check
  exact (hchecks.bind fun rules _ => failsOnly_print explained_store _).error (.refl _) hfail

theorem runShow_unforeseen (h : runShow environment o t = (.error e, t')) :
    e.kind.isReported = true ∨ Unforeseen environment .showRules o t e := by
  refine unforeseen_of_withConfig ?_ h
  intro c t₁ t₂ e hfail
  suffices hshows : FailsOnly (After t₁.world) (Explained .showRules o c t₁.world) _ from
    hshows.error (.refl _) hfail
  refine (failsOnly_globalFields true).bind fun globals _ => ?_
  refine (failsOnly_value _ _).bind fun policy _ => ?_
  refine .bind ?_ fun r _ => ?_
  · refine Act.failsOnly_ofWork ((RuleSet.failsOnly_loadFile _ _ _ t₁.world).mono fun e he => ?_)
    exact explained_rules he fun p hp => hp ▸ .shown rfl
  extract_lets render printing
  have hprinting (u : Unit) :
      FailsOnly (After t₁.world) (Explained .showRules o c t₁.world) (printing u) := by
    refine .bind (failsOnly_print explained_store _) fun _ _ => ?_
    refine .bind (failsOnly_printAll explained_store _) fun _ _ => ?_
    split
    · refine .bind (Act.failsOnly_ofPrinting explained_store) fun _ _ => ?_
      refine .bind (failsOnly_print explained_store _) fun _ _ => ?_
      exact failsOnly_printAll explained_store _
    · exact Effect.failsOnly_pure _
  split
  · next fault hfault =>
    refine .unless (Effect.failsOnly_throw (Or.inl ?_)) fun _ => ?_
    · change fault.kind.isReported = true
      rw [RuleSet.kind_of_fault? hfault]
      rfl
    · exact (Act.failsOnly_say _ _).bind fun _ _ => hprinting ()
  · exact hprinting ()

/-- **A command that fails** is reported, or there is a reason why it is not. -/
theorem run_unforeseen (h : n.run environment o t = (.error e, t')) :
    e.kind.isReported = true ∨ Unforeseen environment n o t e := by
  have hprinted {act : Act Unit} (h : act t = (.error e, t'))
      (hact : FailsOnly (After t.world) (fun e => e.kind.isReported = true) act) :
      e.kind.isReported = true ∨ Unforeseen environment n o t e :=
    Or.inl (hact.error (.refl _) h)
  cases n with
  | process => exact runProcess_unforeseen h
  | showRules => exact runShow_unforeseen h
  | check => exact runCheck_unforeseen h
  | defaults => exact hprinted h (failsOnly_printSections Store.Error.reported _ _)
  | version => exact hprinted h (failsOnly_print Store.Error.reported _)

theorem Unforeseen.kind (h : Unforeseen environment n o t e) (hnot : e.kind.isReported = false) :
    e.kind = .badType ∨ e.kind = .overflow ∨ e.kind = .lookup := by
  cases h with
  | configVoid => exact Or.inl rfl
  | opened _ hreason => exact hreason.kind hnot

end Commands

/-! ## Runs -/

section Runs

variable {name : Text} {rest operands : List Text} {n : Name} {given : List (Given Key)}

theorem run_named (hname : Name.ofText? name = some n) (environment : Option Text) (path : Text)
    (rest : List Text) :
    run environment path (name :: rest) =
      runCommand environment (path ++ ofString " " ++ name) n rest := by
  have hhelp : ¬ (name = ofString "-h" ∨ name = ofString "--help") := by
    have hshort : Name.ofText? (ofString "-h") = none := by decide
    have hlong : Name.ofText? (ofString "--help") = none := by decide
    rintro (rfl | rfl)
    · cases hshort.symm.trans hname
    · cases hlong.symm.trans hname
  unfold run
  dsimp only
  rw [if_neg hhelp, hname]

/-- **A run with a command and arguments that can be read** returns or ends with a message, unless
it fails for a reason that is not foreseen; then an argument or a name is not of its kind, or a
number is out of range. -/
theorem run_foreseen (hname : Name.ofText? name = some n)
    (hparse : n.form.parse rest = (given, .ok operands))
    (hhelp : given.any (·.1 = .help) = false) (environment : Option Text) (path : Text)
    (t : Terminal) :
    (run environment path (name :: rest) t).1 = .returned ∨
    (∃ message, (run environment path (name :: rest) t).1 = .told (ofString "error: " ++ message)) ∨
    ∃ e, (run environment path (name :: rest) t).1 = .escaped e ∧
      (e.kind = .badType ∨ e.kind = .overflow ∨ e.kind = .lookup) ∧
      Unforeseen environment n (.ofGiven given operands) t e := by
  rw [run_named hname, runCommand_eq hparse hhelp]
  dsimp only
  rcases hrun : n.run environment (.ofGiven given operands) t with ⟨e | ⟨⟩, t'⟩
  · dsimp only [Exit.ofResult]
    unfold Exit.ofFailure
    split
    · exact Or.inr (Or.inl ⟨e.message, rfl⟩)
    · next hnot =>
      have hunforeseen := (run_unforeseen hrun).resolve_left hnot
      refine Or.inr (Or.inr ⟨e, rfl, hunforeseen.kind ?_, hunforeseen⟩)
      rwa [Bool.not_eq_true] at hnot
  · exact Or.inl rfl

end Runs

/-! ## An encoding that is not known -/

/-- A log file, and the file of a configuration that names an encoding that is not known. -/
def misnamedStore : Store :=
  { undecodableStore with
    files := [⟨7, [0x61, 0x0A]⟩,
      ⟨8, Encoding.encode (ofString "[general]\nrules_dir = rules\nstate_dir = st\n" ++
        ofString "[process]\nencoding = nope\n")⟩] }

/-- What a run in this store fails for. -/
def misnamed : Failure := .logFile (.stopped (.undecodable (.unknownEncoding "nope")) none)

theorem run_misnamed :
    (run none "logsieve" ["process", "-c", "conf", "log"] (.ready [] misnamedStore)).1 =
      .escaped misnamed := by
  have hname : Name.ofText? "process" = some .process := by decide
  have hparse : Name.process.form.parse ["-c", "conf", "log"] =
      (undecodableGiven, .ok [ofString "log"]) := rfl
  have hfails : (runProcess none (.ofGiven undecodableGiven ["log"]) (.ready [] misnamedStore)).1 =
      .error misnamed := by
    decide +kernel
  rw [run_named hname, runCommand_eq hparse rfl, Name.run, hfails]
  rfl

/-- The configuration of this run is open, and the reason is found in it. -/
theorem run_foreseen_misnamed :
    Name.ofText? "process" = some .process ∧
    Name.process.form.parse ["-c", "conf", "log"] = (undecodableGiven, .ok [ofString "log"]) ∧
    undecodableGiven.any (·.1 = .help) = false ∧
    ∃ c t₁ s,
      start none (.ofGiven undecodableGiven ["log"]) (.ready [] misnamedStore) = (.ok c, t₁) ∧
      settings c = .ok s ∧ Encoding.ofName? s.encoding = none := by
  have hname : Name.ofText? "process" = some .process := by decide
  have hparse : Name.process.form.parse ["-c", "conf", "log"] =
      (undecodableGiven, .ok [ofString "log"]) := rfl
  have hhelp : undecodableGiven.any (·.1 = .help) = false := rfl
  refine ⟨hname, hparse, hhelp, ?_⟩
  rcases run_foreseen hname hparse hhelp none "logsieve" (.ready [] misnamedStore) with
    hreturned | ⟨message, htold⟩ | ⟨e, hescaped, -, hunforeseen⟩
  · rw [run_misnamed] at hreturned
    cases hreturned
  · rw [run_misnamed] at htold
    cases htold
  · rw [run_misnamed] at hescaped
    cases hescaped
    cases hunforeseen with
    | opened hstart hreason =>
      cases hreason with
      | logFile hsettings hmisnamed =>
        obtain ⟨hunknown⟩ := hmisnamed
        generalize ofString "nope" = encoding at hunknown
        cases hunknown with
        | encoding hnone => exact ⟨_, _, _, hstart, hsettings, hnone⟩

/-- **A name in a configuration** can end a run without a message: the encoding is not known. -/
theorem unknown_encoding_escapes :
    Name.ofText? "process" = some .process ∧
    Name.process.form.parse ["-c", "conf", "log"] = (undecodableGiven, .ok [ofString "log"]) ∧
    undecodableGiven.any (·.1 = .help) = false ∧
    (run none "logsieve" ["process", "-c", "conf", "log"] (.ready [] misnamedStore)).1 =
      .escaped misnamed ∧
    misnamed.kind = .lookup ∧ misnamed.message = ofString "unknown encoding: nope" :=
  ⟨by decide, rfl, rfl, run_misnamed, rfl, rfl⟩

end LineSift.Command
