import LineSift.Command.Run

/-!
# What a command looks at

Which paths a command looks at can be told from its arguments and its configuration.  They are the
part of a store that must be there before it runs.
-/

namespace LineSift.Command

/-- Whether a command looks at any files. -/
def Name.usesFiles : Name → Bool
  | .process | .showRules | .check => true
  | .defaults | .version => false

/-- What arguments choose, if they name a command that looks at files. -/
def chosen? : List Text → Option Options
  | [] => none
  | name :: rest =>
    match Name.ofText? name with
    | none => none
    | some n =>
      match n.form.parse rest with
      | (given, .ok operands) =>
        if n.usesFiles then some (Options.ofGiven given operands) else none
      | (_, .error _) => none

/-- The path of the configuration. -/
def Options.configPath? (o : Options) (environment : Option Text) : Option Text :=
  match o.config with
  | .unnamed => environment
  | .void => none
  | .named path => some path

/-- The paths that come from a choice or else from an option. -/
def PathChoice.paths (c : Config) (option : Text) : PathChoice → List Text
  | .unnamed => (c.value "general" option).toOption.toList
  | .void => []
  | .named path => [path]

/-- The paths that a command looks at besides its configuration. -/
def Options.paths (o : Options) (c : Config) : List Text :=
  PathChoice.unnamed.paths c "logging" ++ o.rules.paths c "rules_dir" ++
    o.stateDir.paths c "state_dir" ++ (targets c o).toOption.getD []

end LineSift.Command
