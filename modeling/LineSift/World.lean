import LineSift.Log
import LineSift.Store.Basic

/-!
# Work on a store

Work changes a store and leaves messages.  All messages are kept; those that are heavy enough are
also written down as lines, in a file of the store or among the error output.
-/

namespace LineSift

/-- Where messages are written down. -/
inductive LogTarget where
  /-- The error output. -/
  | errorOutput
  /-- A file. -/
  | file (id : Nat)
  deriving DecidableEq

/-- What work can see and change. -/
structure World where
  store : Store := {}
  /-- The time, as it is written in front of messages. -/
  clock : Text := []
  /-- The messages so far. -/
  log : Log := []
  /-- Where messages are written down, and how heavy they must be. -/
  target : Option (LogTarget × Level) := none
  /-- The error output so far. -/
  errors : Text := []

/-- Work that can fail. -/
abbrev Work (ε α : Type) := ExceptT ε (StateM World) α

namespace LogRecord

open Text (ofString)

/-- The line for a message. -/
def line (clock : Text) (r : LogRecord) : Text :=
  clock ++ ofString " " ++ ofString r.level.name ++ ofString " (MainProcess) " ++ r.message ++
    [.char '\n']

end LogRecord

namespace World

/-- Writes a message down where it is to be written. -/
def writeDown (w : World) (r : LogRecord) : World :=
  match w.target with
  | none => w
  | some (target, least) =>
    if r.level.reaches least then
      match target with
      | .errorOutput => { w with errors := w.errors ++ r.line w.clock }
      | .file id => { w with store := w.store.appendBytes id (Encoding.encode (r.line w.clock)) }
    else w

/-- Leaves a message. -/
def tell (w : World) (r : LogRecord) : World := { w with log := w.log ++ [r] }.writeDown r

end World

namespace Work

variable {ε α : Type}

/-- Leaves a message. -/
def say (level : Level) (message : Text) : Work ε Unit := modify fun w => w.tell ⟨level, message⟩

/-- Work that leaves messages only. -/
def ofLogged (work : Logged ε α) : Work ε α := fun w =>
  let (r, log) := work.outcome
  (r, log.foldl World.tell w)

/-- A change of the store. -/
def ofChange (f : Store.Error → ε) (change : Change α) : Work ε α := fun w =>
  let (r, store) := change w.store
  (r.mapError f, { w with store })

/-- A look at the store. -/
def ofStore (f : Store.Error → ε) (look : Store → Except Store.Error α) : Work ε α := fun w =>
  ((look w.store).mapError f, w)

/-- A pure result. -/
def ofExcept {δ : Type} (f : δ → ε) (r : Except δ α) : Work ε α := fun w => (r.mapError f, w)

/-- Work with failures put into other words. -/
def mapError {δ : Type} (f : δ → ε) (work : Work δ α) : Work ε α := fun w =>
  let (r, w) := work w
  (r.mapError f, w)

end Work

end LineSift
