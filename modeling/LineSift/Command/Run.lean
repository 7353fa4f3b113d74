import LineSift.Command.Options
import LineSift.Command.Terminal
import LineSift.Config.Open
import LineSift.Log.Setup
import LineSift.RuleSet.View

/-!
# What the commands do

The main command prints the unknown lines of log files and saves how far each file has been read.
If printing fails, the position behind the last whole batch is saved, so that the next run goes on
there.  The other commands show rules, check rules, and show the packaged configuration and the
version.
-/

namespace LineSift.Command

open Text (ofString)

/-- Opens the configuration that is chosen. -/
def openConfig (environment : Option Text) : PathChoice → Act Config
  | .unnamed => Act.ofWork .config (Config.openAt none environment true false)
  | .void => throw .voidLookup
  | .named path => Act.ofWork .config (Config.openAt (some path) environment true false)

/-- Opens the configuration and the place for messages. -/
def start (environment : Option Text) (o : Options) : Act Config := do
  let c ← openConfig environment o.config
  let path ← Act.ofExcept .config (c.value "general" "logging")
  let target ← Act.ofWork .store (Log.openTarget path)
  modify fun t => { t with world := { t.world with target := some (target, o.level) } }
  if o.level = .debug then
    modify fun t => { t with world := t.world.tell Log.debugNotice }
  return c

/-- Writes no further messages down. -/
def stopWriting (t : Terminal) : Terminal := { t with world := { t.world with target := none } }

/-- Does something with the configuration, while messages are written down. -/
def withConfig {α : Type} (environment : Option Text) (o : Options) (act : Config → Act α) :
    Act α := do
  let c ← start environment o
  (act c).thenAlways stopWriting

/-- The directory that is chosen, or else that of an option; none if its switch has no value. -/
def directory (c : Config) (option : Text) : PathChoice → Act (Option Text)
  | .unnamed => (Act.ofExcept .config (c.value "general" option)).map some
  | .void => return none
  | .named path => return some path

/-- Loads the rules that all log files are held against. -/
def loadRules (c : Config) (chosen : PathChoice) : Act (List RuleSet) := do
  let directory ← directory c "rules_dir" chosen
  let globals ← Act.ofWork .config (Work.ofLogged (Config.globalFields c true))
  Act.say .info (ofString "load rules from " ++ directory.getD "[]")
  let check ← Act.ofExcept .config (c.truthValue "rules" "check_samples")
  let policy ← Act.ofExcept .config (c.value "rules" "duplicate_fields")
  match directory with
  | none => throw .voidLookup
  | some path => Act.ofWork .rules (RuleSet.loadDirectory globals check policy path)

/-- How log files are read, by a configuration. -/
def settings (c : Config) : Except Config.Error Scan.Settings := do
  let batchSize ← c.intValue "process" "batch_size"
  let encoding ← c.value "process" "encoding"
  let treatment ← c.value "process" "encoding_errors"
  return { batchSize, encoding, treatment }

/-- The directory of the saved markers, where there must be one. -/
def needed : Option Text → Act Text
  | some directory => return directory
  | none => throw .voidJoin

/-- The saved marker of a log file; one that cannot be used is told and counts as none. -/
def savedMarker (stateDir path : Text) : Act Marker := fun t =>
  match Marker.load stateDir path t.world with
  | (.ok m, world) => (.ok m, { t with world })
  | (.error e, world) =>
    let message := ofString "error loading marker for " ++ path ++ ofString ": " ++ e.message
    (.ok {}, { t with world := world.tell ⟨.error, message⟩ })

/-- Saves the marker of a log file that has been read; that the system refuses it is told only. -/
def saveMarker (stateDir path : Text) (m : Marker) : Act Unit := fun t =>
  match Marker.save stateDir path m t.world with
  | (.ok (), world) => (.ok (), { t with world })
  | (.error e, world) =>
    if e.kind.isSystem then
      let message := ofString "error saving marker for " ++ path ++ ofString ": " ++ e.message
      (.ok (), { t with world := world.tell ⟨.error, message⟩ })
    else (.error (.marker e), { t with world })

/-- Reads a log file on and prints its unknown lines. -/
def scan (rules : List RuleSet) (s : Scan.Settings) (path : Text) (last : Marker) :
    StateM Terminal (Except Scan.FileFailure Marker) := fun t =>
  let (o, world) := Scan.logFile rules s Printer.receive path (some last) none t.printer t.world
  (o.result, { world, printer := o.state })

/-- Processes one log file. -/
def processFile (rules : List RuleSet) (s : Scan.Settings) (o : Options) (stateDir : Option Text)
    (path : Text) : Act Unit := do
  Act.say .info (ofString "processing log file " ++ path)
  let last ← if o.ignoreState then pure {} else needed stateDir >>= (savedMarker · path)
  match ← (scan rules s path last : StateM Terminal _) with
  | .ok m => if o.keepState then return else needed stateDir >>= (saveMarker · path m)
  | .error e =>
    if let some m := e.marker? then
      if !o.keepState then
        let d ← needed stateDir
        Act.ofWork .marker (Marker.save d path m)
    throw (.logFile e)

/-- Processes log files one after the other. -/
def processAll (rules : List RuleSet) (s : Scan.Settings) (o : Options) (stateDir : Option Text) :
    List Text → Act Unit
  | [] => return
  | path :: paths => do
    processFile rules s o stateDir path
    processAll rules s o stateDir paths

/-- The log files to process. -/
def targets (c : Config) (o : Options) : Except Config.Error (List Text) :=
  if o.operands ≠ [] then .ok o.operands else c.listValue "general" "src_path"

/-- Shows the unknown lines of log files. -/
def runProcess (environment : Option Text) (o : Options) : Act Unit :=
  withConfig environment o fun c => do
    let rules ← loadRules c o.rules
    let stateDir ← directory c "state_dir" o.stateDir
    let paths ← Act.ofExcept .config (targets c o)
    if paths = [] then throw .noTarget
    let s ← Act.ofExcept .config (settings c)
    processAll rules s o stateDir paths

/-- Prints lines. -/
def printAll : List Text → Act Unit
  | [] => return
  | t :: ts => do
    Act.print t
    printAll ts

/-- Shows a rules file. -/
def runShow (environment : Option Text) (o : Options) : Act Unit :=
  withConfig environment o fun c => do
    let globals ← Act.ofWork .config (Work.ofLogged (Config.globalFields c true))
    let policy ← Act.ofExcept .config (c.value "rules" "duplicate_fields")
    let path := o.operands.headD []
    let r ← Act.ofWork .rules (RuleSet.loadFile globals policy path)
    if let some e := r.fault? then
      if !o.ignoreSamples then throw (.rules (.rules e))
      Act.say .error (ofString "error checking rules file: " ++ e.message)
    Act.print (ofString "Rules from " ++ path ++ ofString ":")
    let render := if o.templates then RuleSet.renderTemplates else RuleSet.render
    printAll (r.templates.map fun t => render (RuleSet.view r.toRules t))
    if o.debug then
      Act.ofPrinting (Printer.write [.char '\n'])
      Act.print (ofString "Generated regexps:")
      printAll (r.regexes.map (·.pattern))

/-- Checks all rules files. -/
def runCheck (environment : Option Text) (o : Options) : Act Unit :=
  withConfig environment o fun c => do
    let rules ← loadRules (c.put "rules" "check_samples" "true") o.rules
    let templates := (rules.map fun r => r.templates.length).foldl (· + ·) 0
    Act.print (Text.decimal rules.length ++ ofString " rules files, " ++ Text.decimal templates ++
      ofString " templates OK")

/-- Prints the sections of a configuration. -/
def printSections (c : Config) : List Text → Act Unit
  | [] => return
  | sec :: secs => do
    Act.print (ofString "[" ++ sec ++ ofString "]")
    printAll ((c.options sec).map fun (name, value) => name ++ ofString " = " ++ value)
    Act.ofPrinting (Printer.write [.char '\n'])
    printSections c secs

/-- Shows the packaged configuration. -/
def runDefaults : Act Unit := printSections Config.packaged Config.packaged.sections.keys

/-- The version. -/
def version : String := "0.1.0"

/-- Shows the version. -/
def runVersion : Act Unit := Act.print (ofString "logsieve " ++ ofString version)

/-- Runs a command. -/
def Name.run (environment : Option Text) (o : Options) : Name → Act Unit
  | .process => runProcess environment o
  | .showRules => runShow environment o
  | .check => runCheck environment o
  | .defaults => runDefaults
  | .version => runVersion

/-- How the program ends. -/
inductive Exit where
  | returned
  | status (code : Nat)
  | told (message : Text)
  /-- A failure that is not foreseen. -/
  | escaped (failure : Failure)

/-- The end for a failure. -/
def Exit.ofFailure (e : Failure) : Exit :=
  if e.kind.isReported then .told (ofString "error: " ++ e.message) else .escaped e

/-- Prints the help text of a command; nobody has to read it. -/
def showHelp (text : Text) : StateM Terminal Exit := fun t =>
  (.status 0, { t with printer := (Printer.write text t.printer).2 })

/-- Tells what is wrong with the arguments of a command. -/
def showProblem (usage program : Text) (p : Problem) : StateM Terminal Exit := fun t =>
  let message := usage ++ program ++ ofString ": error: " ++ p.message ++ ofString "\n"
  (.status 2, { t with world := { t.world with errors := t.world.errors ++ message } })

/-- Runs a command with its arguments. -/
def runCommand (environment : Option Text) (program : Text) (n : Name) (arguments : List Text) :
    StateM Terminal Exit := do
  let (given, result) := n.form.parse arguments
  if given.any (·.1 = .help) then showHelp (n.form.help program)
  else match result with
    | .error p => showProblem (n.form.usage program) program p
    | .ok operands =>
      match ← (n.run environment (Options.ofGiven given operands)).run with
      | .ok () => return .returned
      | .error e => return .ofFailure e

/-- The name of the program within its path. -/
def baseName (path : Text) : Text := (Store.splitPath path).2

/-- Runs the program, which is called by a path, with arguments and an environment. -/
def run (environment : Option Text) (path : Text) (arguments : List Text) :
    StateM Terminal Exit :=
  let usage := usage (baseName path)
  match arguments with
  | [] => return .told usage
  | name :: rest =>
    if name = "-h" ∨ name = "--help" then return .told usage
    else match Name.ofText? name with
    | none =>
      return .told (ofString "invalid subcommand " ++ name ++ ofString "\n\n" ++ usage)
    | some n => runCommand environment (path ++ ofString " " ++ name) n rest

end LineSift.Command
