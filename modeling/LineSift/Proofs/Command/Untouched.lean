import LineSift.Proofs.Command.InTurn

/-!
# Runs that leave the store as it was

Messages that go to the error output leave no trace in a store, and neither does anything that is
done before a marker is saved (`prepare_untouched`, `spares_firstMarker`, `spares_scan`).  So a run
changes the store only by saving a marker.  It does not do so if it is told not to
(`runProcess_keepState`), and a run for one log file that fails before does not either
(`runProcess_failed`).

If saving the marker itself fails, all files are left as they were; but a directory that was made
for it stays (`directory_left_by_failure`).
-/

namespace LineSift.Command

open Text (ofString)

/-- As long as messages are not written into files they still are not, and the store is as
it was. -/
def Terminal.Untouched (t t' : Terminal) : Prop :=
  t.world.IsQuiet → t'.world.IsQuiet ∧ t'.world.store = t.world.store

namespace Terminal.Untouched

variable {t t' t'' : Terminal}

theorem refl (t : Terminal) : Untouched t t := fun ht => ⟨ht, rfl⟩

theorem trans (h : Untouched t t') (h' : Untouched t' t'') : Untouched t t'' := fun ht =>
  ⟨(h' (h ht).1).1, (h' (h ht).1).2.trans (h ht).2⟩

theorem of_noted (h : t.world.Noted t'.world) : Untouched t t' := fun ht =>
  ⟨h.quiet ht, h.store ht⟩

end Terminal.Untouched

namespace Act

variable {α β : Type}

/-- An action that leaves the store as it was, and may print. -/
abbrev Spares (act : Act α) : Prop := Effect.Within Terminal.Untouched act

theorem OnlyLooks.spares {act : Act α} (h : act.OnlyLooks) : act.Spares :=
  fun t => .of_noted (h t).world

theorem Spares.bind {act : Act α} {next : α → Act β} (h : act.Spares)
    (hnext : ∀ a, (next a).Spares) : Spares (act >>= next) :=
  Effect.Within.bind .trans h hnext

end Act

open Act

/-! ## Up to the saving of a marker -/

section Processing

variable {stateDir : Option Text} {path : Text} {o : Options}

theorem spares_needed {α : Type} {next : Text → Act α} (h : ∀ d, (next d).Spares) :
    Spares (needed stateDir >>= next) := by
  cases stateDir with
  | none => exact fun t => .refl t
  | some d => exact h d

theorem spares_savedMarker (d path : Text) : Spares (savedMarker d path) := by
  intro t ht
  obtain ⟨t', heq, hnoted⟩ := savedMarker_eq d path (ht.leavesAlone _)
  rw [heq]
  exact ⟨hnoted.world.quiet ht, hnoted.world.store ht⟩

theorem spares_firstMarker (o : Options) (stateDir : Option Text) (path : Text) :
    Spares (firstMarker o stateDir path) := by
  unfold firstMarker
  split
  · exact Effect.within_pure .refl _
  · exact spares_needed fun d => spares_savedMarker d path

theorem spares_scan (rules : List RuleSet) (s : Scan.Settings) (path : Text) (last : Marker) :
    Spares (liftM (scan rules s path last : StateM Terminal _)) :=
  fun t => .of_noted (scan_noted rules s path last t)

/-- Nothing is saved where that is not wanted. -/
theorem spares_keepMarker (hkeep : o.keepState = true) (r : Except Scan.FileFailure Marker) :
    Spares (keepMarker o stateDir path r) := by
  unfold keepMarker
  cases r with
  | ok m =>
    rw [hkeep]
    exact Effect.within_pure .refl _
  | error e =>
    dsimp only
    split
    · rw [hkeep]
      exact Effect.within_throw .refl _
    · exact Effect.within_throw .refl _

theorem spares_processAll (rules : List RuleSet) (s : Scan.Settings) (hkeep : o.keepState = true)
    (stateDir : Option Text) (paths : List Text) :
    Spares (processAll rules s o stateDir paths) := by
  induction paths with
  | nil => exact Effect.within_pure .refl _
  | cons path paths ih =>
    rw [processAll, processFile_eq]
    refine Spares.bind ?_ fun _ => ih
    refine (onlyLooks_say _ _).spares.bind fun _ => ?_
    refine (spares_firstMarker _ _ _).bind fun last => ?_
    exact (spares_scan rules s path last).bind fun r => spares_keepMarker hkeep r

/-- A marker comes with a failure of the receiver only. -/
theorem kind_of_scan {rules : List RuleSet} {s : Scan.Settings} {last m : Marker} {t : Terminal}
    {e : Scan.FileFailure} (h : (scan rules s path last t).1 = .error e) (hm : e.marker? = some m) :
    e.kind = .handler := by
  unfold scan at h
  rw [Scan.logFile_apply] at h
  cases hid : t.world.store.fileAt path with
  | error e' =>
    rw [hid] at h
    cases h
    cases hm
  | ok id =>
    rw [hid] at h
    dsimp only [Scan.conclude] at h
    split at h
    · cases h
    · cases h
      rfl
    · cases h
      cases hm

theorem needed_cases {α : Type} {next : Text → Act α} {t t' : Terminal} {r : Except Failure α}
    (h : (needed stateDir >>= next) t = (r, t')) :
    (stateDir = none ∧ r = .error .voidJoin ∧ t' = t) ∨ ∃ d ∈ stateDir, next d t = (r, t') := by
  cases stateDir with
  | none =>
    cases h
    exact Or.inl ⟨rfl, rfl, rfl⟩
  | some d => exact Or.inr ⟨d, rfl, h⟩

/-- Saving a marker fails, and the failure says why. -/
def FailsToSave (stateDir path : Text) (m : Marker) (t t' : Terminal) (e : Failure) : Prop :=
  ∃ e', e = .marker e' ∧ Marker.save stateDir path m t.world = (.error e', t'.world)

theorem ofWork_save_error {d : Text} {m : Marker} {t t' : Terminal} {e : Failure}
    (h : Act.ofWork .marker (Marker.save d path m) t = (.error e, t')) :
    FailsToSave d path m t t' e := by
  unfold Act.ofWork at h
  split at h
  next r w hsave =>
    cases r with
    | ok _ => cases h
    | error e' =>
      cases h
      exact ⟨e', rfl, hsave⟩

theorem saveMarker_error {d : Text} {m : Marker} {t t' : Terminal} {e : Failure}
    (h : saveMarker d path m t = (.error e, t')) : FailsToSave d path m t t' e := by
  unfold saveMarker at h
  split at h
  · cases h
  · next e' w hsave =>
    split at h
    · cases h
    · cases h
      exact ⟨e', rfl, hsave⟩

/-- Why keeping a marker fails: saving it fails, or the receiver has failed before, or there is
nothing to save or no directory for it. -/
theorem keepMarker_error {r : Except Scan.FileFailure Marker} {t t' : Terminal} {e : Failure}
    (h : keepMarker o stateDir path r t = (.error e, t')) :
    (∃ d ∈ stateDir, ∃ m, FailsToSave d path m t t' e) ∨
    (∃ f m, r = .error f ∧ f.marker? = some m ∧ e = .logFile f) ∨
    t' = t ∧ (stateDir = none ∧ e = .voidJoin ∨ ∃ f, r = .error f ∧ e = .logFile f) := by
  unfold keepMarker at h
  cases r with
  | ok m =>
    dsimp only at h
    split at h
    · cases h
    · rcases needed_cases h with ⟨hnone, he, rfl⟩ | ⟨d, hd, hsave⟩
      · cases he
        exact Or.inr (Or.inr ⟨rfl, Or.inl ⟨hnone, rfl⟩⟩)
      · exact Or.inl ⟨d, hd, m, saveMarker_error hsave⟩
  | error f =>
    dsimp only at h
    cases hm : f.marker? with
    | none =>
      rw [hm] at h
      cases h
      exact Or.inr (Or.inr ⟨rfl, Or.inr ⟨f, rfl, rfl⟩⟩)
    | some m =>
      rw [hm] at h
      dsimp only at h
      split at h
      · rcases needed_cases h with ⟨hnone, he, rfl⟩ | ⟨d, hd, hsave⟩
        · cases he
          exact Or.inr (Or.inr ⟨rfl, Or.inl ⟨hnone, rfl⟩⟩)
        · rcases Effect.bind_cases hsave with ⟨_, hsave, he⟩ | ⟨_, _, _, hthrow⟩
          · cases he
            exact Or.inl ⟨d, hd, m, ofWork_save_error hsave⟩
          · cases hthrow
            exact Or.inr (Or.inl ⟨f, m, rfl, hm, rfl⟩)
      · cases h
        exact Or.inr (Or.inr ⟨rfl, Or.inr ⟨f, rfl, rfl⟩⟩)

/-- Outside of the temporary file of a marker, directories on the way of the one for saved markers
were made, and nothing else has happened to the store. -/
def SparesFiles (stateDir path : Text) (s s' : Store) : Prop :=
  s.Spared stateDir
    (· = s.spelled stateDir ++ [Store.temporary (Marker.stateName s.workingPath path)]) s'

/-- **Processing a log file** leaves the store as it was if it fails, unless the receiver fails or
saving the marker does; and all files are left as they were if saving the marker fails. -/
theorem processFile_error {rules : List RuleSet} {s : Scan.Settings} {w : Ground}
    {printer : Printer} {t' : Terminal} {e : Failure}
    (h : processFile rules s o stateDir path ⟨w, printer⟩ = (.error e, t')) :
    e.kind = .handler ∨
    (∃ e', e = .marker e' ∧ ∃ d ∈ stateDir, SparesFiles d path w.store t'.world.store) ∨
    t'.world.store = w.store := by
  rw [processFile_eq] at h
  rcases Effect.bind_cases h with ⟨_, hsay, -⟩ | ⟨_, t₁, hsay, h⟩
  · cases hsay
  have h₁ := (onlyLooks_say .info (ofString "processing log file " ++ path)).spares ⟨w, printer⟩
  rw [hsay] at h₁
  have h₂ := spares_firstMarker o stateDir path t₁
  rcases Effect.bind_cases h with ⟨_, hfirst, -⟩ | ⟨last, t₂, hfirst, h⟩
  · rw [hfirst] at h₂
    exact Or.inr (Or.inr ((h₁.trans h₂) w.quiet).2)
  rw [hfirst] at h₂
  rw [Effect.lift_bind] at h
  have h₃ := spares_scan rules s path last t₂
  obtain ⟨hquiet, hstore⟩ : (scan rules s path last t₂).2.world.IsQuiet ∧
      (scan rules s path last t₂).2.world.store = w.store := ((h₁.trans h₂).trans h₃) w.quiet
  rcases keepMarker_error h with ⟨d, hd, m, e', rfl, hfail⟩ | ⟨f, m, hscan, hm, rfl⟩ | ⟨rfl, -⟩
  · have hspared := Marker.save_spared
      ⟨(scan rules s path last t₂).2.world, hquiet, hstore ▸ w.tree⟩ d path m
    dsimp only at hspared
    rw [hstore, hfail] at hspared
    refine Or.inr (Or.inl ⟨e', rfl, d, hd, hspared.mono ?_⟩)
    rintro p (hp | ⟨hok, -⟩)
    · exact hp
    · cases hok
  · exact Or.inl (kind_of_scan hscan hm)
  · exact Or.inr (Or.inr hstore)

end Processing

/-! ## Runs -/

section Running

variable {environment : Option Text} {o : Options} {t : Terminal}

/-- What is opened depends on the store alone. -/
theorem openConfig_ready (environment : Option Text) (o : Options) (ht : t.world.IsQuiet) :
    (openConfig environment o.config (.ready [] t.world.store)).1 =
      (openConfig environment o.config t).1 := by
  have hopen (given : Option Text) (complete verbose : Bool) :
      (Config.openAt given environment complete verbose
        (Terminal.ready [] t.world.store).world).1 =
      (Config.openAt given environment complete verbose t.world).1 :=
    (Config.repeats_openAt complete verbose (fun _ _ _ h => h) t.world _
      ⟨ht, Terminal.ready_quiet _ _, rfl, rfl⟩ (Or.inl rfl)).1
  unfold openConfig
  cases o.config with
  | unnamed => exact congrArg (Except.mapError Failure.config) (hopen none true false)
  | void => rfl
  | named path => exact congrArg (Except.mapError Failure.config) (hopen (some path) true false)

theorem start_untouched (ht : t.world.IsQuiet) (hlog : LogsToErrors environment o t.world.store) :
    t.Untouched (start environment o t).2 := by
  have hopened := (onlyLooks_openConfig environment o.config).spares t
  have hready := openConfig_ready environment o ht
  rcases hopen : openConfig environment o.config t with ⟨e | c, t₁⟩
  · rw [hopen] at hopened
    rw [start, Effect.bind_error hopen]
    exact hopened
  rw [hopen] at hopened hready
  rw [start, Effect.bind_ok hopen]
  cases hvalue : c.value "general" "logging" with
  | error e =>
    have hrefused : (Act.ofExcept .config (.error e) : Act Text) t₁ =
        (.error (.config e), t₁) := rfl
    rw [Effect.bind_error hrefused]
    exact hopened
  | ok path =>
    obtain rfl : path = [] := hlog c path hready hvalue
    have hread : Act.ofExcept .config (.ok [] : Except Config.Error Text) t₁ = (.ok [], t₁) := rfl
    have htarget : Act.ofWork .store (Log.openTarget []) t₁ = (.ok .errorOutput, t₁) := rfl
    rw [Effect.bind_ok hread, Effect.bind_ok htarget, Effect.modify_bind]
    have hset : t₁.Untouched
        { t₁ with world := { t₁.world with target := some (.errorOutput, o.level) } } :=
      fun _ => ⟨.of_errorOutput rfl, rfl⟩
    split
    · exact (hopened.trans hset).trans (.of_noted (.tell _ Log.debugNotice))
    · exact hopened.trans hset

/-- Finding out what to do leaves the store as it was. -/
theorem prepare_untouched (ht : t.world.IsQuiet)
    (hlog : LogsToErrors environment o t.world.store) :
    t.Untouched (prepare environment o t).2 := by
  have hstart := start_untouched ht hlog
  rw [prepare, Effect.bind_apply]
  rcases hstarted : start environment o t with ⟨e | c, t₁⟩
  · rw [hstarted] at hstart
    exact hstart
  · rw [hstarted] at hstart
    exact hstart.trans ((onlyLooks_prepareWith o c).spares t₁)

/-- **A run that saves no marker** leaves the store as it was. -/
theorem runProcess_keepState (ht : t.world.IsQuiet)
    (hlog : LogsToErrors environment o t.world.store) (hkeep : o.keepState = true) :
    (runProcess environment o t).2.world.store = t.world.store := by
  have hprepare := prepare_untouched ht hlog
  rcases hprepared : prepare environment o t with ⟨e | p, t₁⟩
  · rw [hprepared] at hprepare
    obtain ⟨t₂, hrun, hstore, -⟩ := runProcess_error hprepared
    rw [hrun]
    exact hstore.trans (hprepare ht).2
  · rw [hprepared] at hprepare
    rw [runProcess_eq hprepared]
    have hall := spares_processAll p.rules p.settings hkeep p.stateDir p.paths t₁
    exact (hprepare.trans hall ht).2

/-- **A run for one log file that fails** leaves the store as it was, unless the receiver fails or
saving the marker does. -/
theorem runProcess_failed {w : Ground} {printer : Printer}
    (hlog : LogsToErrors environment o w.store)
    (hone : ∀ p, (prepare environment o ⟨w, printer⟩).1 = .ok p → p.paths.length ≤ 1) {e : Failure}
    (h : (runProcess environment o ⟨w, printer⟩).1 = .error e) :
    e.kind = .handler ∨
    (∃ e', e = .marker e' ∧ ∃ p, (prepare environment o ⟨w, printer⟩).1 = .ok p ∧
      ∃ d ∈ p.stateDir, ∃ path ∈ p.paths,
        SparesFiles d path w.store (runProcess environment o ⟨w, printer⟩).2.world.store) ∨
    (runProcess environment o ⟨w, printer⟩).2.world.store = w.store := by
  have hprepare := prepare_untouched (t := ⟨w, printer⟩) w.quiet hlog
  rcases hprepared : prepare environment o ⟨w, printer⟩ with ⟨e' | p, t₁⟩
  · rw [hprepared] at hprepare
    obtain ⟨t₂, hrun, hstore, -⟩ := runProcess_error hprepared
    rw [hrun]
    exact Or.inr (Or.inr (hstore.trans (hprepare w.quiet).2))
  · rw [hprepared] at hprepare hone
    obtain ⟨hquiet, hstore⟩ := hprepare w.quiet
    rw [runProcess_eq hprepared] at h ⊢
    have hlength := hone p rfl
    rcases hpaths : p.paths with _ | ⟨path, _ | ⟨path', rest⟩⟩
    · rw [hpaths] at h
      cases h
    · rw [hpaths, processAll_one] at h
      rw [processAll_one]
      rcases hfile : processFile p.rules p.settings o p.stateDir path t₁ with ⟨e' | _, t₂⟩
      · rw [hfile] at h
        cases h
        -- the terminal that preparing has left, with what is known of its world
        have hfailed := processFile_error (w := ⟨t₁.world, hquiet, hstore ▸ w.tree⟩) hfile
        rcases hfailed with hkind | ⟨e', he, d, hd, hspared⟩ | hsame
        · exact Or.inl hkind
        · refine Or.inr (Or.inl ⟨e', he, p, rfl, d, hd, path, ?_, hstore ▸ hspared⟩)
          rw [hpaths]
          exact List.mem_cons_self
        · exact Or.inr (Or.inr (hsame.trans hstore))
      · rw [hfile] at h
        cases h
    · rw [hpaths] at hlength
      exact absurd hlength (by simp)

/-- **The main command leaves the store as it was** if it is told to save no marker, however it
ends, and if its arguments cannot be read or ask for help.  A run for one log file that fails
leaves it as it was, too, unless the receiver fails, or saving the marker does; and that spares
all files. -/
theorem runCommand_leaves_store (program : Text) {arguments : List Text} {given : List (Given Key)}
    {reading : Except Problem (List Text)} (w : Ground) (printer : Printer)
    (hparse : Name.process.form.parse arguments = (given, reading))
    (hlog : ∀ operands, reading = .ok operands →
      LogsToErrors environment (.ofGiven given operands) w.store) :
    let t : Terminal := { world := w, printer }
    let r := runCommand environment program .process arguments t
    ((Options.ofGiven given []).keepState = true → r.2.world.store = w.store) ∧
    (∀ code, r.1 = .status code → r.2.world.store = w.store) ∧
    ∀ operands, reading = .ok operands → given.any (·.1 = .help) = false →
      let o := Options.ofGiven given operands
      (∀ p, (prepare environment o t).1 = .ok p → p.paths.length ≤ 1) →
      ∀ e, (runProcess environment o t).1 = .error e → r.1 = .ofFailure e ∧
        (e.kind = .handler ∨
        (∃ e', e = .marker e' ∧ ∃ p, (prepare environment o t).1 = .ok p ∧
          ∃ d ∈ p.stateDir, ∃ path ∈ p.paths,
            SparesFiles d path w.store r.2.world.store) ∨
        r.2.world.store = w.store) := by
  have hkeep (operands : List Text) :
      (Options.ofGiven given operands).keepState = (Options.ofGiven given []).keepState := by
    rw [ofGiven_operands given [] operands]
  intro t r
  by_cases hhelp : given.any (·.1 = .help) = true
  · -- help is printed
    have hr : r.2.world.store = w.store := by
      simp only [r, t, runCommand, hparse, hhelp, if_true, showHelp]
    refine ⟨fun _ => hr, fun _ _ => hr, fun operands _ hunhelped => ?_⟩
    rw [hhelp] at hunhelped
    cases hunhelped
  · rw [Bool.not_eq_true] at hhelp
    cases reading with
    | error problem =>
      have hr : r.2.world.store = w.store := by
        simp only [r, t, runCommand, hparse, hhelp]
        rfl
      exact ⟨fun _ => hr, fun _ _ => hr, fun operands he => by cases he⟩
    | ok operands =>
      have hrun := runCommand_process hparse hhelp environment program t
      rw [show runCommand environment program .process arguments t = r from rfl] at hrun
      have hlog := hlog operands rfl
      rw [hrun]
      refine ⟨fun h => runProcess_keepState w.quiet hlog ((hkeep operands).trans h), ?_, ?_⟩
      · intro code hcode
        dsimp only [Exit.ofResult] at hcode
        split at hcode
        · cases hcode
        · unfold Exit.ofFailure at hcode
          split at hcode <;> cases hcode
      · rintro _ ⟨⟩ _ o hone e he
        refine ⟨congrArg Exit.ofResult he, runProcess_failed hlog hone he⟩

end Running

/-! ## Runs that fail -/

/-- A log file whose second line cannot be decoded, and the file of a configuration by which it is
to be decoded strictly and printed line by line. -/
def undecodableStore : FileTree where
  nodes := [(["log"], .file 0), (["rules"], .directory), (["conf"], .file 1)]
  files := [⟨7, [0x61, 0x0A, 0xFF, 0x0A]⟩,
    ⟨8, Encoding.encode (ofString "[general]\nrules_dir = rules\nstate_dir = state\n" ++
      ofString "[process]\nencoding_errors = strict\nbatch_size = 1\n")⟩]
  tree := by apply Store.Tree.of_nodes <;> decide

/-- A terminal in front of which a run begins in this store. -/
def undecodable (limit : Option Nat) : Terminal :=
  { world := Ground.ofTree [] undecodableStore, printer := { limit } }

/-- A run in this store. -/
def runUndecodable (arguments : List Text) (limit : Option Nat) : Exit × Terminal :=
  runCommand none "logsieve" .process arguments (undecodable limit)

/-- What the switches say that name the configuration. -/
def undecodableGiven : List (Given Key) := [(.config, some "conf")]

/-- The first line is printed, and the second one cannot be decoded; and a run that saves no marker
is not read. -/
theorem runCommand_leaves_store_undecodable :
    (runUndecodable ["-c", "conf", "log"] none).2.world.store = undecodableStore ∧
    (runUndecodable ["-c", "conf", "log"] none).1.isFailure = true ∧
    (runUndecodable ["-c", "conf", "log"] none).2.printer.output = ofString "a\n" ∧
    (runUndecodable ["-c", "conf", "-n", "log"] (some 0)).2.world.store = undecodableStore ∧
    (runUndecodable ["-c", "conf", "-n", "log"] (some 0)).1.isFailure = true := by
  have hlog {o : Options} (ho : o.config = .named "conf") :
      LogsToErrors none o undecodableStore := by
    apply LogsToErrors.of_value
    rw [ho]
    decide +kernel
  have hone : ∀ p, (prepare none (.ofGiven undecodableGiven ["log"])
      (undecodable none)).1 = .ok p → p.paths.length ≤ 1 := by
    intro p hp
    rcases hprepare : prepare none (.ofGiven undecodableGiven ["log"]) (undecodable none) with
      ⟨r, t'⟩
    rw [hprepare] at hp
    obtain rfl : r = .ok p := hp
    rw [paths_of_prepare (by decide) hprepare]
    decide
  have hfails : (runProcess none (.ofGiven undecodableGiven ["log"]) (undecodable none)).1 =
      .error (.logFile (.stopped (.undecodable (.undecodable .utf8 [0xFF] 0 .badStart)) none)) := by
    decide +kernel
  have hparse : Name.process.form.parse ["-c", "conf", "log"] =
      (undecodableGiven, .ok [ofString "log"]) := rfl
  have hparse' : Name.process.form.parse ["-c", "conf", "-n", "log"] =
      (undecodableGiven ++ [(.keepState, none)], .ok [ofString "log"]) := rfl
  obtain ⟨-, -, hrun⟩ := runCommand_leaves_store "logsieve" (Ground.ofTree [] undecodableStore) {}
    hparse (fun _ _ => hlog rfl)
  obtain ⟨hkept, -⟩ := runCommand_leaves_store "logsieve" (Ground.ofTree [] undecodableStore)
    { limit := some 0 } hparse' (fun _ _ => hlog rfl)
  obtain ⟨hexit, hkind | ⟨_, he, -⟩ | hsame⟩ := hrun ["log"] rfl rfl hone _ hfails
  · cases hkind
  · cases he
  · rw [runUndecodable, runUndecodable, undecodable, undecodable, hexit]
    exact ⟨hsame, isFailure_ofFailure _, by decide +kernel, hkept rfl, by decide +kernel⟩

/-- A log file, and the file of a configuration that names a directory for saved markers by a path
that has a zero byte in its last name. -/
def unnamableStore : FileTree :=
  undecodableStore.withFiles
    [⟨7, [0x61, 0x0A]⟩,
      ⟨8, Encoding.encode (ofString "[general]\nrules_dir = rules\nstate_dir = new/s\x00t\n")⟩] rfl

/-- Saving the marker makes the directory above the one that it refuses to make.  This ends the run,
and the directory stays. -/
theorem directory_left_by_failure :
    LogsToErrors none (.ofGiven undecodableGiven ["log"]) unnamableStore ∧
    (runProcess none (.ofGiven undecodableGiven ["log"]) (.ready [] unnamableStore)).1 =
      .error (.marker (.store ⟨.zeroByte, ["new/s\x00t"]⟩)) ∧
    unnamableStore.isDirectory "new" = false ∧
    (runCommand none "logsieve" .process ["-c", "conf", "log"]
      (.ready [] unnamableStore)).2.world.store.isDirectory "new" = true := by
  refine ⟨.of_value ?_, ?_⟩
  · decide +kernel
  · decide +kernel

end LineSift.Command
