import LineSift.Config.Error
import LineSift.Marker.Saved
import LineSift.RuleSet.Directory
import LineSift.Scan.LogFile

/-!
# Commands at work

A command works on a store and prints lines.  Whoever reads them can stop reading: after a number of
complete lines nothing more can be printed, and trying to is a failure like others.
-/

namespace LineSift.Command

open Text (ofString)

/-- What has been printed. -/
structure Printer where
  /-- The texts that have been printed, the latest first. -/
  printed : List Text := []
  /-- After so many complete lines nobody reads on; without a number somebody always does. -/
  limit : Option Nat := none
  deriving DecidableEq

/-- Printing, which can be refused. -/
abbrev Printing (α : Type) := ExceptT Store.Error (StateM Printer) α

namespace Printer

/-- All that has been printed. -/
def output (p : Printer) : Text := p.printed.reverse.flatten

/-- Whether nobody reads on. -/
def isClosed (p : Printer) : Bool := p.limit.any (· ≤ p.output.count (.char '\n'))

/-- Prints a text. -/
def write (t : Text) : Printing Unit := do
  if (← get).isClosed then throw ⟨.brokenPipe, []⟩
  modify fun p => { p with printed := t :: p.printed }

/-- Prints a line. -/
def line (t : Text) : Printing Unit := do
  write t
  write [.char '\n']

/-- Prints lines. -/
def lines : List Text → Printing Unit
  | [] => return
  | t :: ts => do
    line t
    lines ts

/-- Receives batches by printing their lines. -/
def receive : Scan.Receiver Printer := fun batch p =>
  let (r, p) := lines batch p
  (r.mapError fun e => .suffered e.kind e.message, p)

end Printer

/-- Why a command fails. -/
inductive Failure where
  | config (e : Config.Error)
  | rules (e : RuleSet.LoadError)
  | marker (e : Marker.SavedError)
  | logFile (e : Scan.FileFailure)
  | store (e : Store.Error)
  | noTarget
  /-- A path is looked for although its switch has no value. -/
  | voidLookup
  /-- A path is put together although the switch for its first part has no value. -/
  | voidJoin
  deriving DecidableEq

namespace Failure

/-- The kind of each cause. -/
def kind : Failure → Kind
  | .config e => e.kind
  | .rules e => e.kind
  | .marker e => e.kind
  | .logFile e => e.kind
  | .store e => e.kind
  | .noTarget => .noTarget
  | .voidLookup | .voidJoin => .badType

/-- The wording of each cause. -/
def message : Failure → Text
  | .config e => e.message
  | .rules e => e.message
  | .marker e => e.message
  | .logFile e => e.message
  | .store e => e.message
  | .noTarget => "no log files to process"
  | .voidLookup => "stat: path should be string, bytes, os.PathLike or integer, not list"
  | .voidJoin => "expected str, bytes or os.PathLike object, not list"

end Failure

/-- What a command can see and change. -/
structure Terminal where
  world : World := {}
  printer : Printer := {}

/-- What a command does. -/
abbrev Act (α : Type) := ExceptT Failure (StateM Terminal) α

namespace Act

variable {ε α : Type}

/-- Work on the store. -/
def ofWork (f : ε → Failure) (work : Work ε α) : Act α := fun t =>
  let (r, world) := work t.world
  (r.mapError f, { t with world })

/-- Printing. -/
def ofPrinting (printing : Printing α) : Act α := fun t =>
  let (r, printer) := printing t.printer
  (r.mapError .store, { t with printer })

/-- A pure result. -/
def ofExcept (f : ε → Failure) (r : Except ε α) : Act α := fun t => (r.mapError f, t)

/-- Prints a line. -/
def print (line : Text) : Act Unit := ofPrinting (Printer.line line)

/-- Leaves a message. -/
def say (level : Level) (message : Text) : Act Unit :=
  modify fun t => { t with world := t.world.tell ⟨level, message⟩ }

/-- Does something and then, whether it failed or not, something that cannot fail. -/
def thenAlways (act : Act α) (last : Terminal → Terminal) : Act α := fun t =>
  let (r, t) := act t
  (r, last t)

end Act

end LineSift.Command
