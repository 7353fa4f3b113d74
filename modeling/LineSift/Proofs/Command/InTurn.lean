import LineSift.Proofs.Command.Again

/-!
# One run for several log files

The main command can be given several log files at once, or one after the other in runs of their
own, up to the first run that fails.  This comes to the same (`runAlone_eq_runInTurn`).  What
carries over from one run to the next is the store: each run finds out again what the one run has
found out at its beginning, and does not notice what was printed before it.
-/

namespace LineSift.Command

open Text (ofString)

/-! ## Runs -/

/-- A time and the arguments with which the main command is run. -/
structure Call where
  clock : Text
  arguments : List Text

/-- How a run ended, what it printed, and the store that it left. -/
structure Ended where
  exit : Exit
  printed : Text
  store : Store

/-- Whether a run has failed. -/
def Exit.isFailure : Exit → Bool
  | .returned => false
  | .status code => code ≠ 0
  | .told _ | .escaped _ => true

/-- A run of the main command by a program that is called by a path. -/
def runAlone (environment : Option Text) (program : Text) (c : Call) (s : Store) : Ended :=
  let r := run environment program (ofString "process" :: c.arguments) (.ready c.clock s)
  { exit := r.1, printed := r.2.printer.output, store := r.2.world.store }

/-- Runs of the main command one after the other, up to the first one that fails. -/
def runInTurn (environment : Option Text) (program : Text) : Call → List Call → Store → Ended
  | c, [], s => runAlone environment program c s
  | c, d :: rest, s =>
    let e := runAlone environment program c s
    if e.exit.isFailure then e
    else
      let e' := runInTurn environment program d rest e.store
      { e' with printed := e.printed ++ e'.printed }

theorem runInTurn_of_failure {environment : Option Text} {program : Text} {c : Call} {s : Store}
    (h : (runAlone environment program c s).exit.isFailure = true) (rest : List Call) :
    runInTurn environment program c rest s = runAlone environment program c s := by
  cases rest with
  | nil => rfl
  | cons d rest =>
    rw [runInTurn]
    dsimp only
    rw [if_pos h]

theorem isFailure_ofFailure (e : Failure) : (Exit.ofFailure e).isFailure = true := by
  unfold Exit.ofFailure
  split <;> rfl

/-- Which log files are named makes no difference for the other choices. -/
theorem ofGiven_operands (given : List (Given Key)) (operands operands' : List Text) :
    Options.ofGiven given operands' =
      { Options.ofGiven given operands with operands := operands' } := by
  have hadd (o : Options) (g : Given Key) :
      Options.add { o with operands := operands' } g =
        { Options.add o g with operands := operands' } := by
    obtain ⟨key, value⟩ := g
    cases key <;> rfl
  have hall (o : Options) : given.foldl Options.add { o with operands := operands' } =
      { given.foldl Options.add o with operands := operands' } := by
    induction given generalizing o with
    | nil => rfl
    | cons g given ih => rw [List.foldl_cons, hadd, ih, List.foldl_cons]
  exact hall { operands }

/-- The end of a run that has come to a result and left a terminal. -/
def Ended.of (r : Except Failure Unit × Terminal) : Ended :=
  { exit := .ofResult r.1, printed := r.2.printer.output, store := r.2.world.store }

section Running

variable {environment : Option Text} {program : Text} {given : List (Given Key)}
  {operands : List Text} {c : Call} {s : Store}

theorem run_process (arguments : List Text) :
    run environment program (ofString "process" :: arguments) =
      runCommand environment (program ++ ofString " " ++ ofString "process") .process
        arguments := by
  have hname : Name.ofText? (ofString "process") = some .process := by decide
  have hhelp : ¬ (ofString "process" = ofString "-h" ∨ ofString "process" = ofString "--help") := by
    decide
  unfold run
  dsimp only
  rw [if_neg hhelp, hname]

theorem runAlone_eq (hparse : Name.process.form.parse c.arguments = (given, .ok operands))
    (hhelp : given.any (·.1 = .help) = false) (environment : Option Text) (program : Text)
    (s : Store) :
    runAlone environment program c s =
      .of (runProcess environment (.ofGiven given operands) (.ready c.clock s)) := by
  unfold runAlone
  rw [run_process, runCommand_process hparse hhelp]
  rfl

/-- Arguments that cannot be read end a run, and nothing is done. -/
theorem runAlone_of_problem {problem : Problem}
    (hparse : Name.process.form.parse c.arguments = (given, .error problem))
    (hhelp : given.any (·.1 = .help) = false) (environment : Option Text) (program : Text)
    (s : Store) :
    runAlone environment program c s = { exit := .status 2, printed := [], store := s } := by
  unfold runAlone
  rw [run_process, runCommand, hparse]
  dsimp only
  rw [hhelp]
  rfl

/-- A run that is asked for help prints it, whatever else its arguments say. -/
theorem runAlone_of_help {reading : Except Problem (List Text)}
    (hparse : Name.process.form.parse c.arguments = (given, reading))
    (hhelp : given.any (·.1 = .help) = true) (environment : Option Text) (program : Text)
    (s : Store) :
    runAlone environment program c s =
      { exit := .status 0
        printed := Name.process.form.help (program ++ ofString " " ++ ofString "process")
        store := s } := by
  unfold runAlone
  rw [run_process, runCommand, hparse]
  dsimp only
  have hopen : ¬ Printer.isClosed {} = true := Bool.false_ne_true
  rw [if_pos hhelp, showHelp, Terminal.ready, Printer.write_apply, if_neg hopen,
    Printer.output_cons]
  rfl

end Running

/-! ## One run after the other -/

/-- What holds of the store in front of the first run, for the choices of the runs and what is found
out at the beginning: messages go to the error output, and the file of the configuration is not
touched. -/
structure Repeatable (environment : Option Text) (o : Options) (p : Prepared)
    (touched : Place → Prop) (s : FileTree) : Prop where
  logs : LogsToErrors environment o s
  config : ∀ file ∈ o.configPath? environment, ¬ touched (s.spelled file)
  hidden : ∀ q, touched q → Store.isShown q = false
  operands : o.operands ≠ []
  prepared : (prepare environment o (.ready [] s)).1 = .ok p
  touches : o.keepState = false → ∀ log ∈ o.operands, MayTouch s.working p.stateDir log touched

namespace Repeatable

variable {environment : Option Text} {o : Options} {p : Prepared} {touched : Place → Prop}
  {s : FileTree} {s' : Store}

/-- A later run finds out the same. -/
theorem prepare_later (h : Repeatable environment o p touched s)
    (hspared : Store.Spared (p.stateDir.getD []) touched s s') (clock : Text) :
    ∃ t, prepare environment o (.ready clock s') = (.ok p, t) ∧ t.world.IsQuiet ∧
      t.world.store = s' ∧ t.printer = {} := by
  have hagain : Act.Repeats s s' [] (prepare environment o) :=
    repeats_prepare hspared h.hidden h.logs h.config
  have hfirst : Terminal.Alike (fun a b => a = s ∧ b = s') [] (.ready [] s) (.ready clock s') :=
    ⟨⟨Terminal.ready_quiet _ _, Terminal.ready_quiet _ _, rfl, rfl⟩, rfl, rfl, rfl⟩
  obtain ⟨hsame, hrest⟩ := hagain _ _ hfirst (Or.inr ⟨p, h.prepared⟩)
  have hprepare : prepare environment o (.ready clock s') =
      (.ok p, (prepare environment o (.ready clock s')).2) :=
    Prod.ext (hsame.trans h.prepared) rfl
  obtain ⟨hstore, hprinter⟩ :=
    prepare_ok (Terminal.ready_quiet clock s') hprepare hrest.world.quiet'
  exact ⟨_, hprepare, hrest.world.quiet', hstore, hprinter⟩

/-- A later run on one log file processes it as any other terminal does that is alike. -/
theorem runProcess_later (h : Repeatable environment o p touched s)
    (hspared : Store.Spared (p.stateDir.getD []) touched s s') (clock path : Text) :
    ∃ t, t.world.IsQuiet ∧ t.world.store = s' ∧ t.printer = {} ∧
      runProcess environment { o with operands := [path] } (.ready clock s') =
        ((processFile p.rules p.settings o p.stateDir path t).1,
          stopWriting (processFile p.rules p.settings o p.stateDir path t).2) := by
  obtain ⟨t, hprepare, hquiet, hstore, hprinter⟩ := h.prepare_later hspared clock
  have hone : prepare environment { o with operands := [path] } (.ready clock s') =
      (.ok { p with paths := [path] }, t) := by
    rw [prepare_operands environment o h.operands (List.cons_ne_nil path []),
      Effect.bind_ok hprepare]
    rfl
  refine ⟨t, hquiet, hstore, hprinter, ?_⟩
  have hfile : processFile p.rules p.settings { o with operands := [path] } p.stateDir path =
      processFile p.rules p.settings o p.stateDir path := rfl
  rw [runProcess_eq hone]
  dsimp only
  rw [processAll_one, hfile]

variable (program : Text) {given : List (Given Key)}

/-- A later run on one log file does what processing it does in the middle of a run, but for what
was printed before; and again nothing else is touched. -/
theorem runAlone_later (h : Repeatable environment o p touched s)
    (hhelp : given.any (·.1 = .help) = false) {path : Text}
    (hpath : path ∈ o.operands)
    (hgiven : Options.ofGiven given [path] = { o with operands := [path] })
    {c : Call} (hparse : Name.process.form.parse c.arguments = (given, .ok [path]))
    {t : Terminal} (ht : t.world.IsQuiet) (hlimit : t.printer.limit = none)
    (hspared : Store.Spared (p.stateDir.getD []) touched s t.world.store) {r : Except Failure Unit}
    {t' : Terminal} (hfile : processFile p.rules p.settings o p.stateDir path t = (r, t')) :
    (∃ printed, runAlone environment program c t.world.store =
        { exit := .ofResult r, printed, store := t'.world.store } ∧
      t'.printer.output = t.printer.output ++ printed) ∧
    t'.world.IsQuiet ∧ t'.printer.limit = none ∧
      Store.Spared (p.stateDir.getD []) touched s t'.world.store := by
  obtain ⟨u, hquiet, hstore, hprinter, hrun⟩ := h.runProcess_later hspared c.clock path
  have hfirst : t.Alike Eq t.printer.printed u :=
    ⟨⟨ht, hquiet, hstore.symm⟩, hlimit, by rw [hprinter], by rw [hprinter, List.nil_append]⟩
  obtain ⟨hsame, hafter⟩ := mirrors_processFile p.rules p.settings o p.stateDir path t u hfirst
    (Or.inl trivial)
  have hproceeds := proceeds_processFile p.rules p.settings
    (fun hkeep => h.touches hkeep path hpath) t ht (hspared.tree s.tree) hspared.working
  rw [hfile] at hsame hafter hproceeds
  refine ⟨⟨_, ?_, hafter.printer.output⟩, hafter.world.quiet, hafter.printer.limit,
    hspared.trans hproceeds.2⟩
  rw [runAlone_eq hparse hhelp, hgiven, hrun, Ended.of, hsame, hafter.world.stores]
  rfl

/-- **Processing log files** comes to the same as running the command on each of them. -/
theorem processAll_eq (h : Repeatable environment o p touched s)
    (hhelp : given.any (·.1 = .help) = false)
    (hgiven : ∀ path, Options.ofGiven given [path] = { o with operands := [path] })
    {first : Call} {rest : List Call} {paths : List Text}
    (hpaths : ∀ path ∈ paths, path ∈ o.operands)
    (hcalls : List.Forall₂ (fun path c => Name.process.form.parse c.arguments = (given, .ok [path]))
      paths (first :: rest))
    {t : Terminal} (ht : t.world.IsQuiet) (hlimit : t.printer.limit = none)
    (hspared : Store.Spared (p.stateDir.getD []) touched s t.world.store) :
    Ended.of (processAll p.rules p.settings o p.stateDir paths t) =
      { runInTurn environment program first rest t.world.store with
        printed := t.printer.output ++
          (runInTurn environment program first rest t.world.store).printed } := by
  induction rest generalizing first paths t with
  | nil =>
    obtain ⟨path, paths', hparse, hnone, rfl⟩ := List.forall₂_cons_right_iff.mp hcalls
    obtain rfl := List.forall₂_nil_right_iff.mp hnone
    rcases hfile : processFile p.rules p.settings o p.stateDir path t with ⟨r, t'⟩
    obtain ⟨⟨printed, halone, hprinted⟩, -⟩ :=
      h.runAlone_later program hhelp (hpaths path List.mem_cons_self) (hgiven path) hparse ht
        hlimit hspared hfile
    rw [runInTurn, halone, ← hprinted, processAll, Effect.bind_apply, hfile]
    cases r <;> rfl
  | cons d rest ih =>
    obtain ⟨path, paths', hparse, hrest, rfl⟩ := List.forall₂_cons_right_iff.mp hcalls
    rcases hfile : processFile p.rules p.settings o p.stateDir path t with ⟨r, t'⟩
    obtain ⟨⟨printed, halone, hprinted⟩, ht', hlimit', hspared'⟩ :=
      h.runAlone_later program hhelp (hpaths path List.mem_cons_self) (hgiven path) hparse ht
        hlimit hspared hfile
    rw [runInTurn, halone, processAll]
    cases r with
    | error e =>
      rw [Effect.bind_error hfile]
      have hfails : (Exit.ofResult (.error e)).isFailure = true := isFailure_ofFailure e
      dsimp only
      rw [if_pos hfails, ← hprinted]
      rfl
    | ok _ =>
      rw [Effect.bind_ok hfile]
      have hreturns : ¬ (Exit.ofResult (.ok ())).isFailure = true := Bool.false_ne_true
      have hall := ih (fun q hq => hpaths q (List.mem_cons_of_mem _ hq)) hrest ht' hlimit' hspared'
      dsimp only
      rw [if_neg hreturns, hall, hprinted, List.append_assoc]

end Repeatable

/-- The log files that were found out are those of the command line. -/
theorem paths_of_prepare {environment : Option Text} {o : Options} (h : o.operands ≠ [])
    {t t' : Terminal} {p : Prepared} (hp : prepare environment o t = (.ok p, t')) :
    p.paths = o.operands := by
  have hsame : prepare environment { o with operands := o.operands } t =
      (.ok { p with paths := o.operands }, t') := by
    rw [prepare_operands environment o h h, Effect.bind_ok hp]
    rfl
  have he : p = { p with paths := o.operands } :=
    Except.ok.inj (Prod.mk.inj (hp.symm.trans hsame)).1
  rw [he]

/-- When nothing can be found out, all runs end in the same way. -/
theorem runProcess_of_error {environment : Option Text} {o : Options} {s : Store} {e : Failure}
    (h : o.operands ≠ []) (hagain : Act.Repeats s s [] (prepare environment o))
    (herror : (prepare environment o (.ready [] s)).1 = .error e) {paths : List Text}
    (hpaths : paths ≠ []) (clock : Text) :
    Ended.of (runProcess environment { o with operands := paths } (.ready clock s)) =
      { exit := .ofFailure e
        printed := (prepare environment o (.ready [] s)).2.printer.output
        store := s } := by
  have hfirst : Terminal.Alike (fun a b => a = s ∧ b = s) [] (.ready [] s) (.ready clock s) :=
    .ready (Terminal.ready_quiet _ _) rfl ⟨rfl, rfl⟩ clock
  obtain ⟨hsame, hrest⟩ := hagain _ _ hfirst (Or.inl rfl)
  have hprepare : prepare environment { o with operands := paths } (.ready clock s) =
      (.error e, (prepare environment o (.ready clock s)).2) := by
    rw [prepare_operands environment o h hpaths]
    exact Effect.bind_error (Prod.ext (hsame.trans herror) rfl)
  obtain ⟨t, hrun, hstore, hprinter⟩ := runProcess_error hprepare
  rw [hrun, Ended.of, hstore, hprinter, hrest.world.stores.2, hrest.printer.output]
  rfl

/-- The file of the configuration is neither the file of a marker that is saved nor a
temporary one. -/
def ConfigApart (environment : Option Text) (o : Options) (s : Store) : Prop :=
  o.keepState = false → ∀ p, (prepare environment o (.ready [] s)).1 = .ok p →
    ∀ d ∈ p.stateDir, ∀ log ∈ o.operands, ∀ file ∈ o.configPath? environment,
      ¬ Marker.IsPlace s d log (s.spelled file)

/-- What holds for runs that save markers, if the configuration is read from another file. -/
theorem Repeatable.of_prepared {environment : Option Text} {o : Options} {s : FileTree}
    {p : Prepared} (hlog : LogsToErrors environment o s)
    (hconfig : ConfigApart environment o s) (hoperands : o.operands ≠ [])
    (hprepare : (prepare environment o (.ready [] s)).1 = .ok p) :
    ∃ touched, Repeatable environment o p touched s := by
  refine ⟨fun q => o.keepState = false ∧
    ∃ d ∈ p.stateDir, ∃ log ∈ o.operands, Marker.IsPlace s d log q,
    hlog, ?_, ?_, hoperands, hprepare, ?_⟩
  · rintro file hfile ⟨hkeep, d, hd, log, hlog, hplace⟩
    exact hconfig hkeep p hprepare d hd log hlog file hfile hplace
  · rintro q ⟨-, d, -, log, -, hplace⟩
    exact hplace.hidden
  · intro hkeep log hlog d hd s' hworking q hplace
    exact ⟨hkeep, d, hd, log, hlog, (Marker.isPlace_iff hworking).mp hplace⟩

/-- The runs when the arguments can be read. -/
theorem runAlone_of_operands {environment : Option Text} {program : Text} {given : List (Given Key)}
    {paths : List Text} {whole first : Call} {rest : List Call} {s : FileTree}
    (hhelp : given.any (·.1 = .help) = false)
    (hlog : LogsToErrors environment (.ofGiven given paths) s)
    (hconfig : ConfigApart environment (.ofGiven given paths) s)
    (hwhole : Name.process.form.parse whole.arguments = (given, .ok paths))
    (hcalls : List.Forall₂ (fun path c => Name.process.form.parse c.arguments = (given, .ok [path]))
      paths (first :: rest)) :
    runAlone environment program whole s = runInTurn environment program first rest s := by
  obtain ⟨path, paths', hfirst, -, hpaths⟩ := List.forall₂_cons_right_iff.mp hcalls
  have hne : paths ≠ [] := by
    rw [hpaths]
    exact List.cons_ne_nil _ _
  have hgiven := ofGiven_operands given paths
  have hown : (Options.ofGiven given paths).operands = paths := by
    rw [hgiven paths]
  rw [runAlone_eq hwhole hhelp]
  generalize Options.ofGiven given paths = o at *
  have hoperands : o.operands ≠ [] := by
    rw [hown]
    exact hne
  have hsame : { o with operands := paths } = o := by
    rw [← hown]
  cases hprepare : (prepare environment o (.ready [] s)).1 with
  | error e =>
    have hagain : Act.Repeats s s [] (prepare environment o) :=
      repeats_prepare (.refl [] (fun _ => False) s) (fun _ h => h.elim) hlog
        fun _ _ h => h
    have hends {ops : List Text} (hops : ops ≠ []) (clock : Text) :=
      runProcess_of_error hoperands hagain hprepare hops clock
    have hone := runAlone_eq hfirst hhelp environment program s
    rw [hgiven, hends (List.cons_ne_nil path [])] at hone
    have hall := hends hne whole.clock
    rw [hsame] at hall
    have hfails : (runAlone environment program first s).exit.isFailure = true := by
      rw [hone]
      exact isFailure_ofFailure e
    rw [hall, runInTurn_of_failure hfails, hone]
  | ok p =>
    obtain ⟨touched, hrepeat⟩ :=
      Repeatable.of_prepared hlog hconfig hoperands hprepare
    obtain ⟨t, hwhole, hquiet, hstore, hprinter⟩ := hrepeat.prepare_later (.refl _ _ s) whole.clock
    have hspared : Store.Spared (p.stateDir.getD []) touched s t.world.store := by
      rw [hstore]
      exact .refl _ _ s
    have hlimit : t.printer.limit = none := by
      rw [hprinter]
    have hall := hrepeat.processAll_eq program hhelp (fun path => hgiven [path])
      (fun path hpath => hown.symm ▸ hpath) hcalls hquiet hlimit hspared
    rw [runProcess_eq hwhole, paths_of_prepare hoperands hwhole, hown]
    refine Eq.trans ?_ (hall.trans ?_)
    · rfl
    · rw [hstore, hprinter]
      rfl

/-- **One run for several log files** prints the same, leaves the same store, and ends in the same
way as runs for one log file each, with the same switches, that follow one another up to the first
one that fails.  The switches can be read or have the same problem in all runs, and do not ask for
help; messages go to the error output, what is printed is read to the end, and the file of the
configuration is not among the files that are written. -/
theorem runAlone_eq_runInTurn {environment : Option Text} {program : Text}
    {given : List (Given Key)}
    {reading : Except Problem Unit} {paths : List Text} {whole first : Call} {rest : List Call}
    {s : FileTree} (hhelp : given.any (·.1 = .help) = false)
    (hlog : LogsToErrors environment (.ofGiven given paths) s)
    (hconfig : ConfigApart environment (.ofGiven given paths) s)
    (hwhole : Name.process.form.parse whole.arguments = (given, reading.map fun _ => paths))
    (hcalls : List.Forall₂
      (fun path c => Name.process.form.parse c.arguments = (given, reading.map fun _ => [path]))
      paths (first :: rest)) :
    runAlone environment program whole s = runInTurn environment program first rest s := by
  cases reading with
  | ok _ => exact runAlone_of_operands hhelp hlog hconfig hwhole hcalls
  | error problem =>
    obtain ⟨_, _, hfirst, -, -⟩ := List.forall₂_cons_right_iff.mp hcalls
    have hone := runAlone_of_problem hfirst hhelp environment program s
    have hfails : (runAlone environment program first s).exit.isFailure = true := by
      rw [hone]
      rfl
    rw [runInTurn_of_failure hfails, hone, runAlone_of_problem hwhole hhelp]

/-! ## Runs in one store -/

/-- A log file of two lines beside the directories of rules and of saved markers, and the file of a
configuration. -/
def configuredStore : FileTree where
  nodes := [(["log"], .file 0), (["rules"], .directory), (["state"], .directory),
    (["conf"], .file 1)]
  files := [⟨7, [0x61, 0x0A, 0x62, 0x0A]⟩,
    ⟨8, Encoding.encode (ofString "[general]\nstate_dir = state\n")⟩]
  tree := by apply Store.Tree.of_nodes <;> decide

/-- A call with switches and the paths of log files. -/
def callOf (switches paths : List Text) : Call := ⟨[], switches ++ paths⟩

/-- Switches that name the configuration and the directory of rules. -/
def configuredSwitches : List Text := ["-c", "conf", "-r", "rules"]

/-- What these switches say. -/
def configuredGiven : List (Given Key) := [(.config, some "conf"), (.rules, some "rules")]

/-- A log file that is there, one that is not, and the first one again. -/
def missingSecond : List Text := ["log", "none", "log"]

/-- The first log file is read, the second one is not there, and so the third one is left alone. -/
theorem runAlone_eq_runInTurn_missing :
    runAlone none "logsieve" (callOf configuredSwitches missingSecond) configuredStore =
      runInTurn none "logsieve" (callOf configuredSwitches ["log"])
        [callOf configuredSwitches ["none"], callOf configuredSwitches ["log"]] configuredStore ∧
    (runAlone none "logsieve" (callOf configuredSwitches missingSecond)
      configuredStore).printed = ofString "a\nb\n" := by
  have hlog : LogsToErrors none (.ofGiven configuredGiven missingSecond) configuredStore := by
    intro c v hc hv
    have hvalue : ((openConfig none (.named "conf") (.ready [] configuredStore)).1.toOption.map
        fun c => (c.value "general" "logging").toOption) = some (some []) := by decide +kernel
    have hopen : (openConfig none (.named "conf") (.ready [] configuredStore)).1 = .ok c := hc
    rw [hopen, Except.toOption, Option.map_some, hv] at hvalue
    exact Option.some.inj (Option.some.inj hvalue)
  have hconfig : ConfigApart none (.ofGiven configuredGiven missingSecond) configuredStore := by
    intro _ p hp d hd log hlog file hfile
    have hdir : (prepare none (.ofGiven configuredGiven missingSecond)
        (.ready [] configuredStore)).1.toOption.map (·.stateDir) =
          some (some (ofString "state")) := by
      decide +kernel
    rw [hp, Except.toOption, Option.map_some, Option.mem_def.mp hd] at hdir
    obtain rfl : d = ofString "state" := Option.some.inj (Option.some.inj hdir)
    obtain rfl : ofString "conf" = file := Option.some.inj hfile
    have hall : ∀ log ∈ missingSecond,
        ¬ Marker.IsPlace configuredStore "state" log (configuredStore.spelled "conf") := by
      unfold Marker.IsPlace
      decide +kernel
    exact hall log hlog
  have hwhole : Name.process.form.parse (callOf configuredSwitches missingSecond).arguments =
      (configuredGiven, (Except.ok () : Except Problem Unit).map fun _ => missingSecond) := rfl
  refine ⟨runAlone_eq_runInTurn ?_ hlog hconfig hwhole ?_, ?_⟩
  · rfl
  · exact .cons rfl (.cons rfl (.cons rfl .nil))
  · decide +kernel

/-- The same log file, while the file of the configuration is the temporary file of its marker. -/
def companionStore : FileTree :=
  { configuredStore with
    nodes := [(["log"], .file 0), (["rules"], .directory), (["state"], .directory),
      (["state", ".log.pos.tmp"], .file 1)]
    tree := by apply Store.Tree.of_nodes <;> decide }

/-- Switches that name the temporary file as the configuration. -/
def companionSwitches : List Text := ["-c", "state/.log.pos.tmp", "-r", "rules"]

/-- A file of the configuration that is not the file of a marker is not enough: the first run
renames a temporary one, and the second run does not find it.  And help is printed by each run. -/
theorem runInTurn_differs :
    companionStore.spelled "state/.log.pos.tmp" ≠
      companionStore.spelled (Marker.statePath companionStore.workingPath "state" "log") ∧
    (runAlone none "logsieve" (callOf companionSwitches ["log", "log"])
      companionStore).exit.isFailure = false ∧
    (runInTurn none "logsieve" (callOf companionSwitches ["log"])
      [callOf companionSwitches ["log"]] companionStore).exit.isFailure = true ∧
    (runAlone none "logsieve" (callOf ["-h"] ["log", "log"]) configuredStore).printed ≠
      (runInTurn none "logsieve" (callOf ["-h"] ["log"]) [callOf ["-h"] ["log"]]
        configuredStore).printed := by
  have hone : runAlone none "logsieve" (callOf ["-h"] ["log"]) configuredStore =
      { exit := .status 0
        printed := Name.process.form.help (ofString "logsieve process")
        store := configuredStore } := runAlone_of_help rfl rfl _ _ _
  have hwhole : runAlone none "logsieve" (callOf ["-h"] ["log", "log"]) configuredStore =
      { exit := .status 0
        printed := Name.process.form.help (ofString "logsieve process")
        store := configuredStore } := runAlone_of_help rfl rfl _ _ _
  have hreturns : ¬ (Exit.status 0).isFailure = true := Bool.false_ne_true
  have hsome : Name.process.form.help (ofString "logsieve process") ≠ [] := by decide +kernel
  refine ⟨?_, ?_, ?_, ?_⟩
  · decide +kernel
  · decide +kernel
  · decide +kernel
  · rw [hwhole, runInTurn, hone]
    dsimp only
    rw [if_neg hreturns, runInTurn, hone]
    intro h
    exact hsome (List.self_eq_append_right.mp h)

end LineSift.Command
