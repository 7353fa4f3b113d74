import LineSift.Text.Basic

/-!
# Messages about the work itself

Reading rules and following files is accompanied by messages of different weight.  They are
collected in order; whoever shows them leaves out those below a level.
-/

namespace LineSift

/-- The weight of a message. -/
inductive Level where
  | debug
  | info
  | warning
  | error
  deriving DecidableEq

namespace Level

/-- The order of the weights. -/
def rank : Level → Nat
  | .debug => 10
  | .info => 20
  | .warning => 30
  | .error => 40

/-- The name of a level, as it is written in a log. -/
def name : Level → String
  | .debug => "DEBUG"
  | .info => "INFO"
  | .warning => "WARNING"
  | .error => "ERROR"

/-- Whether a message is at least as heavy as a level asks. -/
def reaches (l least : Level) : Bool := least.rank ≤ l.rank

end Level

/-- A message with its weight. -/
structure LogRecord where
  level : Level
  message : Text
  deriving DecidableEq

/-- Messages in the order in which they arose. -/
abbrev Log := List LogRecord

/-- Work that leaves messages and can fail; the messages before a failure stay. -/
abbrev Logged (ε : Type) := ExceptT ε (StateM Log)

namespace Logged

/-- Leaves a message. -/
def say {ε : Type} (level : Level) (message : Text) : Logged ε Unit :=
  modify fun log => log ++ [⟨level, message⟩]

/-- A pure result, whose failure is put into words of this work. -/
def ofExcept {ε δ α : Type} (f : δ → ε) : Except δ α → Logged ε α
  | .ok a => return a
  | .error e => throw (f e)

/-- The messages and the result of some work. -/
def outcome {ε α : Type} (work : Logged ε α) : Except ε α × Log := work.run.run []

end Logged

end LineSift
