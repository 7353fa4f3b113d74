import LineSift.Command.Run
import LineSift.Proofs.Looking

/-!
# Before log files are processed

Before it processes log files, the main command opens its configuration, loads rules, and finds out
which files to process and how (`prepare`).  If messages go to the error output, this changes
nothing in the store (`prepare_ok`); what follows is the processing of the log files
(`runProcess_eq`).
-/

namespace LineSift.Command

/-- Nothing but messages lies between two terminals. -/
structure Terminal.Noted (t t' : Terminal) : Prop where
  world : t.world.Noted t'.world
  printer : t'.printer = t.printer

namespace Terminal.Noted

variable {t t' t'' : Terminal}

theorem refl (t : Terminal) : Noted t t := ⟨.refl _, rfl⟩

theorem trans (h : Noted t t') (h' : Noted t' t'') : Noted t t'' :=
  ⟨h.world.trans h'.world, h'.printer.trans h.printer⟩

end Terminal.Noted

namespace Act

variable {ε α β : Type}

/-- An action that only looks at the store and prints nothing. -/
abbrev OnlyLooks (act : Act α) : Prop := Effect.Within Terminal.Noted act

theorem OnlyLooks.bind {act : Act α} {next : α → Act β} (h : act.OnlyLooks)
    (hnext : ∀ a, (next a).OnlyLooks) : OnlyLooks (act >>= next) :=
  Effect.Within.bind .trans h hnext

theorem onlyLooks_pure (a : α) : OnlyLooks (pure a : Act α) := Effect.within_pure .refl a

theorem onlyLooks_throw (e : Failure) : OnlyLooks (throw e : Act α) := Effect.within_throw .refl e

theorem onlyLooks_ofWork (f : ε → Failure) {work : Work ε α} (h : work.OnlyLooks) :
    OnlyLooks (ofWork f work) := fun t => ⟨h t.world, rfl⟩

theorem onlyLooks_ofExcept (f : ε → Failure) (r : Except ε α) : OnlyLooks (ofExcept f r) := .refl

theorem thenAlways_apply (act : Act α) (last : Terminal → Terminal) (t : Terminal) :
    act.thenAlways last t = ((act t).1, last (act t).2) := rfl

theorem onlyLooks_say (level : Level) (message : Text) : OnlyLooks (say level message) :=
  fun t => ⟨.tell t.world _, rfl⟩

end Act

open Act

theorem onlyLooks_openConfig (environment : Option Text) (choice : PathChoice) :
    OnlyLooks (openConfig environment choice) := by
  cases choice with
  | unnamed => exact onlyLooks_ofWork _ (Config.onlyLooks_openAt _ _ _ _)
  | void => exact onlyLooks_throw _
  | named path => exact onlyLooks_ofWork _ (Config.onlyLooks_openAt _ _ _ _)

theorem onlyLooks_directory (c : Config) (option : Text) (choice : PathChoice) :
    OnlyLooks (directory c option choice) := by
  cases choice with
  | unnamed =>
    intro t
    unfold directory
    cases c.value "general" option <;> exact .refl t
  | void => exact onlyLooks_pure _
  | named path => exact onlyLooks_pure _

theorem onlyLooks_loadRules (c : Config) (chosen : PathChoice) :
    OnlyLooks (loadRules c chosen) := by
  unfold loadRules
  refine (onlyLooks_directory _ _ _).bind fun d => ?_
  refine (onlyLooks_ofWork _ (Work.onlyLooks_ofLogged _)).bind fun globals => ?_
  refine (onlyLooks_say _ _).bind fun _ => ?_
  refine (onlyLooks_ofExcept _ _).bind fun check => (onlyLooks_ofExcept _ _).bind fun policy => ?_
  cases d with
  | none => exact onlyLooks_throw _
  | some path => exact onlyLooks_ofWork _ (RuleSet.onlyLooks_loadDirectory _ _ _ _)

/-- What is known before log files are processed. -/
structure Prepared where
  rules : List RuleSet
  settings : Scan.Settings
  stateDir : Option Text
  paths : List Text
  deriving DecidableEq

/-- What is done before log files are processed, with an open configuration. -/
def prepareWith (o : Options) (c : Config) : Act Prepared := do
  let rules ← loadRules c o.rules
  let stateDir ← directory c "state_dir" o.stateDir
  let paths ← Act.ofExcept .config (targets c o)
  if paths = [] then throw .noTarget
  let settings ← Act.ofExcept .config (settings c)
  return { rules, settings, stateDir, paths }

/-- What is done before log files are processed. -/
def prepare (environment : Option Text) (o : Options) : Act Prepared :=
  start environment o >>= prepareWith o

theorem onlyLooks_prepareWith (o : Options) (c : Config) : OnlyLooks (prepareWith o c) := by
  unfold prepareWith
  refine (onlyLooks_loadRules _ _).bind fun rules => (onlyLooks_directory _ _ _).bind fun d => ?_
  refine (onlyLooks_ofExcept _ _).bind fun paths => ?_
  refine Effect.Within.unless .trans (onlyLooks_throw _) fun _ => ?_
  exact (onlyLooks_ofExcept _ _).bind fun settings => onlyLooks_pure _

theorem runProcess_apply (environment : Option Text) (o : Options) :
    runProcess environment o =
      start environment o >>= fun c =>
        (prepareWith o c >>= fun p =>
          processAll p.rules p.settings o p.stateDir p.paths).thenAlways stopWriting := by
  unfold runProcess withConfig prepareWith
  congr 1
  funext c
  simp only [bind_assoc]
  congr 2
  funext rules
  congr 1
  funext stateDir
  congr 1
  funext paths
  split
  · rfl
  · simp

/-- The main command processes log files after its preparation. -/
theorem runProcess_eq {environment : Option Text} {o : Options} {t t' : Terminal} {p : Prepared}
    (h : prepare environment o t = (.ok p, t')) :
    runProcess environment o t =
      ((processAll p.rules p.settings o p.stateDir p.paths t').1,
        stopWriting (processAll p.rules p.settings o p.stateDir p.paths t').2) := by
  obtain ⟨c, t₁, hstart, hwith⟩ := Effect.of_bind_ok h
  rw [runProcess_apply, Effect.bind_ok hstart, Act.thenAlways_apply, Effect.bind_ok hwith]

/-- One log file is processed by itself. -/
theorem processAll_one (rules : List RuleSet) (s : Scan.Settings) (o : Options)
    (stateDir : Option Text) (path : Text) (t : Terminal) :
    processAll rules s o stateDir [path] t = processFile rules s o stateDir path t := by
  rw [processAll, Effect.bind_apply]
  rcases processFile rules s o stateDir path t with ⟨_ | _, _⟩ <;> rfl

/-- The main command processes nothing if its preparation fails. -/
theorem runProcess_error {environment : Option Text} {o : Options} {t t' : Terminal} {e : Failure}
    (h : prepare environment o t = (.error e, t')) :
    ∃ t'', runProcess environment o t = (.error e, t'') ∧ t''.world.store = t'.world.store ∧
      t''.printer = t'.printer := by
  rw [runProcess_apply]
  rcases Effect.bind_cases h with ⟨_, hstart, he⟩ | ⟨c, t₁, hstart, hwith⟩
  · cases he
    exact ⟨t', Effect.bind_error hstart, rfl, rfl⟩
  · refine ⟨stopWriting t', ?_, rfl, rfl⟩
    rw [Effect.bind_ok hstart, Act.thenAlways_apply, Effect.bind_error hwith]

/-- The end of a command. -/
def Exit.ofResult : Except Failure Unit → Exit
  | .ok () => .returned
  | .error e => .ofFailure e

/-- A command with arguments that can be read and do not ask for help. -/
theorem runCommand_eq {n : Name} {arguments operands : List Text} {given : List (Given Key)}
    (hparse : n.form.parse arguments = (given, .ok operands))
    (hhelp : given.any (·.1 = .help) = false) (environment : Option Text) (program : Text)
    (t : Terminal) :
    runCommand environment program n arguments t =
      (.ofResult (n.run environment (.ofGiven given operands) t).1,
        (n.run environment (.ofGiven given operands) t).2) := by
  unfold runCommand
  rw [hparse]
  dsimp only
  rw [hhelp]
  simp only [Bool.false_eq_true, if_false, bind, StateT.bind, ExceptT.run]
  rcases n.run environment (.ofGiven given operands) t with ⟨_ | _, _⟩ <;> rfl

theorem runCommand_process {arguments operands : List Text} {given : List (Given Key)}
    (hparse : Name.process.form.parse arguments = (given, .ok operands))
    (hhelp : given.any (·.1 = .help) = false) (environment : Option Text) (program : Text)
    (t : Terminal) :
    runCommand environment program .process arguments t =
      (.ofResult (runProcess environment (.ofGiven given operands) t).1,
        (runProcess environment (.ofGiven given operands) t).2) :=
  runCommand_eq hparse hhelp environment program t

theorem openTarget_errorOutput {path : Text} {w w' : World}
    (h : Log.openTarget path w = (.ok .errorOutput, w')) : w' = w := by
  unfold Log.openTarget at h
  split at h
  · cases h
    rfl
  · obtain ⟨_, _, _, h⟩ := Effect.of_bind_ok h
    obtain ⟨_, _, _, h⟩ := Effect.of_bind_ok h
    cases h

/-- Opening the configuration and then the place for messages is all that a run begins with, apart
from messages. -/
theorem start_cases {environment : Option Text} {o : Options} {t t' : Terminal} {c : Config}
    (h : start environment o t = (.ok c, t')) :
    ∃ t₁ path target w, t.Noted t₁ ∧ Log.openTarget path t₁.world = (.ok target, w) ∧
      World.Noted { w with target := some (target, o.level) } t'.world ∧
        t'.printer = t.printer := by
  obtain ⟨c', t₁, hopen, h⟩ := Effect.of_bind_ok h
  obtain ⟨path, t₂, hpath, h⟩ := Effect.of_bind_ok h
  obtain ⟨target, t₃, htarget, h⟩ := Effect.of_bind_ok h
  have hnoted : t.Noted t₂ := by
    have h₁ := onlyLooks_openConfig environment o.config t
    rw [hopen] at h₁
    have h₂ := onlyLooks_ofExcept Failure.config (c'.value "general" "logging") t₁
    rw [hpath] at h₂
    exact h₁.trans h₂
  unfold Act.ofWork at htarget
  rcases hwork : Log.openTarget path t₂.world with ⟨e | target', w⟩
  · rw [hwork] at htarget
    cases htarget
  · rw [hwork] at htarget
    cases htarget
    rw [Effect.modify_bind] at h
    split at h
    · rw [Effect.modify_bind] at h
      cases h
      exact ⟨t₂, path, target, w, hnoted, hwork, .tell _ _, hnoted.printer⟩
    · cases h
      exact ⟨t₂, path, target, w, hnoted, hwork, .refl _, hnoted.printer⟩

/-- Opening the configuration and the place for messages changes nothing but that place, if messages
go to the error output. -/
theorem start_ok {environment : Option Text} {o : Options} {t t' : Terminal} {c : Config}
    (ht : t.world.IsQuiet) (h : start environment o t = (.ok c, t')) (ht' : t'.world.IsQuiet) :
    t'.world.store = t.world.store ∧ t'.printer = t.printer := by
  obtain ⟨t₁, path, target, w, hnoted, hopen, hset, hprinter⟩ := start_cases h
  cases target with
  | file id => exact absurd hset.target (ht' id o.level)
  | errorOutput =>
    obtain rfl := openTarget_errorOutput hopen
    exact ⟨(hset.store (.of_errorOutput rfl)).trans (hnoted.world.store ht), hprinter⟩

theorem prepare_ok {environment : Option Text} {o : Options} {t t' : Terminal} {p : Prepared}
    (ht : t.world.IsQuiet) (h : prepare environment o t = (.ok p, t')) (ht' : t'.world.IsQuiet) :
    t'.world.store = t.world.store ∧ t'.printer = t.printer := by
  obtain ⟨c, t₁, hstart, hwith⟩ := Effect.of_bind_ok h
  have hnoted := onlyLooks_prepareWith o c t₁
  rw [hwith] at hnoted
  have ht₁ : t₁.world.IsQuiet := by
    intro id least
    rw [← hnoted.world.target]
    exact ht' id least
  obtain ⟨hstore, hprinter⟩ := start_ok ht hstart ht₁
  exact ⟨(hnoted.world.store ht₁).trans hstore, hnoted.printer.trans hprinter⟩

/-- Opening the place for messages makes a file if there is none. -/
theorem openTarget_kept {path : Text} {target : LogTarget} {w w' : World} (hs : w.store.Tree)
    (h : Log.openTarget path w = (.ok target, w')) : w.store.Kept w'.store := by
  unfold Log.openTarget at h
  split at h
  · cases h
    exact .refl hs
  · rw [Effect.get_bind] at h
    obtain ⟨id, w₁, hopen, h⟩ := Effect.of_bind_ok h
    cases h
    unfold Work.ofChange at hopen
    rcases hchange : Store.openForWriting (Store.absolutePath w.store.workingPath path) w.store with
      ⟨e | k, s⟩
    · rw [hchange] at hopen
      cases hopen
    · rw [hchange] at hopen
      cases hopen
      exact Store.openForWriting_kept hs hchange

/-- **Preparing** a run keeps all files, but for the messages that are written into one of them. -/
theorem prepare_kept {environment : Option Text} {o : Options} {w : Ground} {printer : Printer}
    {t : Terminal} {p : Prepared} (h : prepare environment o ⟨w, printer⟩ = (.ok p, t)) :
    (∃ w' : World, w.store.Kept w'.store ∧ w'.Noted t.world) ∧ t.printer = printer := by
  obtain ⟨c, t₁, hstart, hwith⟩ := Effect.of_bind_ok h
  obtain ⟨t₂, path, target, w', hnoted, hopen, hset, hprinter⟩ := start_cases hstart
  have hrest := onlyLooks_prepareWith o c t₁
  rw [hwith] at hrest
  have hstore := hnoted.world.store w.quiet
  have hkept := openTarget_kept (hstore ▸ w.tree) hopen
  rw [hstore] at hkept
  exact ⟨⟨{ w' with target := some (target, o.level) }, hkept, hset.trans hrest.world⟩,
    hrest.printer.trans hprinter⟩

/-- A file into which no messages are written is as it was before. -/
theorem prepare_fileAt {environment : Option Text} {o : Options} {w : Ground} {printer : Printer}
    {t : Terminal} {p : Prepared}
    (h : prepare environment o ⟨w, printer⟩ = (.ok p, t)) {path : Text}
    {id : Nat} (hid : w.store.fileAt path = .ok id) (hapart : t.world.IsApart id) :
    t.world.store.fileAt path = .ok id ∧ t.world.store.file id = w.store.file id := by
  obtain ⟨⟨w', hkept, hnoted⟩, -⟩ := prepare_kept h
  have hapart : w'.IsApart id := fun least => hnoted.target ▸ hapart least
  obtain ⟨hid, hfile⟩ := hkept.fileAt hid
  exact ⟨(hnoted.fileAt path).trans hid, (hnoted.file hapart).trans hfile⟩

end LineSift.Command
