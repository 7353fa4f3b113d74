import LineSift.Command.Arguments
import LineSift.Log

/-!
# The commands and their switches
-/

namespace LineSift.Command

open Text (ofString)

/-- What a switch means. -/
inductive Key where
  | help
  | config
  | debug
  | verbose
  | rules
  | stateDir
  | ignoreState
  | keepState
  | templates
  | ignoreSamples
  deriving DecidableEq

/-- The commands. -/
inductive Name where
  | process
  | showRules
  | check
  | defaults
  | version
  deriving DecidableEq

/-- A path that can be named by a switch. -/
inductive PathChoice where
  | unnamed
  /-- The switch is given, but its value is none. -/
  | void
  | named (path : Text)
  deriving DecidableEq

/-- The path that the value of a switch names. -/
def PathChoice.ofValue : Option Text → PathChoice
  | none => .void
  | some path => .named path

/-- What was chosen by switches and arguments. -/
structure Options where
  config : PathChoice := .unnamed
  debug : Bool := false
  verbose : Bool := false
  rules : PathChoice := .unnamed
  stateDir : PathChoice := .unnamed
  ignoreState : Bool := false
  keepState : Bool := false
  templates : Bool := false
  ignoreSamples : Bool := false
  operands : List Text := []
  deriving DecidableEq

/-- The choices with one more switch. -/
def Options.add (o : Options) (g : Given Key) : Options :=
  match g.1 with
  | .help => o
  | .config => { o with config := .ofValue g.2 }
  | .debug => { o with debug := true }
  | .verbose => { o with verbose := true }
  | .rules => { o with rules := .ofValue g.2 }
  | .stateDir => { o with stateDir := .ofValue g.2 }
  | .ignoreState => { o with ignoreState := true }
  | .keepState => { o with keepState := true }
  | .templates => { o with templates := true }
  | .ignoreSamples => { o with ignoreSamples := true }

/-- The choices by switches and other arguments. -/
def Options.ofGiven (given : List (Given Key)) (operands : List Text) : Options :=
  given.foldl Options.add { operands }

/-- How heavy messages must be. -/
def Options.level (o : Options) : Level :=
  if o.debug then .debug else if o.verbose then .info else .warning

/-- A switch. -/
def switch (key : Key) (names : List String) (help : String) (value : Option String := none) :
    Switch Key where
  key
  names := names.map ofString
  value := value.map ofString
  help := ofString help

/-- The switch that asks for help. -/
def helpSwitch : Switch Key := switch .help ["-h", "--help"] "show this help message and exit"

/-- The switches that commands about rules have in common. -/
def commonSwitches : List (Switch Key) :=
  [helpSwitch,
    switch .config ["-c", "--config"] "configuration file path for logsieve" (some "CONFIG"),
    switch .debug ["--debug"] "set logging level to debug (default: warning)",
    switch .verbose ["-v", "--verbose"] "set logging level to info"]

/-- The switch for the directory of rules. -/
def rulesSwitch : Switch Key :=
  switch .rules ["-r", "--rules"]
    "load rules from this directory (default: general.rules_dir in config)" (some "DIR")

namespace Name

/-- The commands in order. -/
def all : List Name := [.process, .showRules, .check, .defaults, .version]

/-- The name of a command. -/
def text : Name → String
  | .process => "process"
  | .showRules => "show"
  | .check => "check"
  | .defaults => "conf-defaults"
  | .version => "version"

/-- What a command does. -/
def description : Name → String
  | .process => "Show log messages not matched by any rules."
  | .showRules => "Parse and show a rules file."
  | .check => "Load all rules files and run their self-tests."
  | .defaults => "Show default configurations."
  | .version => "Show version."

/-- The switches of a command. -/
def switches : Name → List (Switch Key)
  | .process => commonSwitches ++ [rulesSwitch,
      switch .stateDir ["-s", "--state-dir"]
        "directory for keeping log file positions (default: general.state_dir in config)"
        (some "DIR"),
      switch .ignoreState ["-i", "--ignore-state"]
        "ignore the state and process files from the start",
      switch .keepState ["-n", "--no-update-state"] "do not update the state"]
  | .showRules => commonSwitches ++ [
      switch .templates ["-t", "--templates"] "show field templates instead of field names",
      switch .ignoreSamples ["-I", "--ignore-samples"] "do not fail on samples not matched"]
  | .check => commonSwitches ++ [rulesSwitch]
  | .defaults | .version => [helpSwitch]

/-- The other arguments of a command. -/
def operands : Name → Operands
  | .process => .many "PATH" "log files to process (optional; defaultly read from config)"
  | .showRules => .one "RULEFILE" "rules file to show"
  | _ => .none

/-- The form of a command. -/
def form (n : Name) : Form Key where
  description := ofString n.description
  switches := n.switches
  operands := n.operands

/-- Another name of a command. -/
def aliases : List (String × Name) := [("filter", .process)]

/-- The command with a given name. -/
def ofText? (t : Text) : Option Name :=
  (all.find? fun n => ofString n.text = t).or
    ((aliases.find? fun (a, _) => ofString a = t).map (·.2))

end Name

/-- The lines about the commands, in the order of their names. -/
def summaryLines : List Text :=
  let entries := Name.all.map (fun n => (n.text, n.description)) ++
    Name.aliases.map fun (a, n) => (a, "same as " ++ n.text)
  (entries.mergeSort fun a b => a.1 ≤ b.1).map fun (name, what) =>
    ofString "  " ++ ofString name ++ ofString ": " ++ ofString what

/-- How the program is called. -/
def usage (program : Text) : Text :=
  Text.join [.char '\n']
    ([ofString "usage: " ++ program ++ ofString " SUBCOMMAND [options and arguments] ...", [],
        ofString "subcommands: "] ++ summaryLines ++
      [[], ofString "try \"" ++ program ++
        ofString " SUBCOMMAND -h\" to refer detailed subcommand usage"])

end LineSift.Command
