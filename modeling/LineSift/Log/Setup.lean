import LineSift.World

/-!
# Where messages go

Messages come from named sources.  A setup chooses some of the sources and a level; the messages of
those sources that are heavy enough are written down, each once, in the order in which they arise.
At the lowest level each choice of a source is noted, even if the source is chosen twice.
-/

namespace LineSift.Log

open Text (ofString)

/-- A choice of sources. -/
inductive Choice (α : Type) where
  | none
  | one (source : α)
  | many (sources : List α)
  /-- Something that is no choice of sources. -/
  | unusable

/-- The sources of a choice. -/
def Choice.sources? {α : Type} : Choice α → Option (List α)
  | .none => some []
  | .one source => some [source]
  | .many sources => some sources
  | .unusable => Option.none

/-- A setup: the sources, as often as they were chosen, and the level. -/
structure Setup (α : Type) where
  sources : List α
  least : Level

/-- The setup of two choices; none if one of them is unusable. -/
def setup? {α : Type} (first second : Choice α) (least : Level) : Option (Setup α) :=
  match first.sources?, second.sources? with
  | some a, some b => some ⟨a ++ b, least⟩
  | _, _ => Option.none

/-- The message that is left for a choice of a source at the lowest level. -/
def debugNotice : LogRecord := ⟨.debug, "logger is on debug mode"⟩

/-- The messages that a setup leaves itself. -/
def Setup.notices {α : Type} (s : Setup α) : Log :=
  if s.least = .debug then s.sources.map fun _ => debugNotice else []

/-- The messages that are written down. -/
def Setup.kept {α : Type} [DecidableEq α] (s : Setup α) (records : List (α × LogRecord)) : Log :=
  (records.filter fun (source, r) => source ∈ s.sources ∧ r.level.reaches s.least).map (·.2)

/-- The text of messages. -/
def text (clock : Text) (log : Log) : Text := log.flatMap (LogRecord.line clock)

/-- All that is written down. -/
def Setup.text {α : Type} [DecidableEq α] (s : Setup α) (clock : Text)
    (records : List (α × LogRecord)) : Text :=
  Log.text clock (s.notices ++ s.kept records)

/-- Opens the place where messages are written down: a file, or the error output if the name is
empty. -/
def openTarget (path : Text) : Work Store.Error LogTarget :=
  if path = [] then return .errorOutput
  else do
    let place := Store.absolutePath (← get).store.workingPath path
    let id ← Work.ofChange id (Store.openForWriting place)
    return .file id

end LineSift.Log
