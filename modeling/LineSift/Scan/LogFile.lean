import LineSift.Marker.Basic
import LineSift.Scan.Batch
import LineSift.World

/-!
# Reading a log file on

A log file is read from the position of a marker to its end.  The new marker stands at the end, or,
if the receiver failed, behind the last line of the last batch that was received.
-/

namespace LineSift.Scan

open Text (ofString)

/-- How a log file is read. -/
structure Settings where
  batchSize : Int := 20
  encoding : Text := "utf-8"
  treatment : Text := "replace"
  deriving DecidableEq

/-- Why a log file is not read to its end. -/
inductive FileFailure where
  /-- The file cannot be opened or closed. -/
  | store (e : Store.Error)
  /-- The work ends before its time; there is a marker if the receiver failed. -/
  | stopped (failure : Failure) (marker : Option Marker)
  deriving DecidableEq

namespace FileFailure

/-- The kind of each cause. -/
def kind : FileFailure → Kind
  | .store e => e.kind
  | .stopped failure _ => failure.kind

/-- The wording of each cause. -/
def message : FileFailure → Text
  | .store e => e.message
  | .stopped failure _ => failure.message

/-- The marker behind the last batch received. -/
def marker? : FileFailure → Option Marker
  | .store _ => none
  | .stopped _ marker => marker

end FileFailure

/-- How reading a log file ended, with the state of the receiver. -/
structure FileOutcome (σ : Type) where
  state : σ
  result : Except FileFailure Marker

/-- What an outcome of the work on a file means: the new marker, or why there is none. -/
def conclude {σ : Type} (inode : Nat) (o : Outcome σ) : Except FileFailure Marker :=
  match o.failure with
  | none => .ok { inode, offset := o.taken }
  | some (.receiver f) => .error (.stopped (.receiver f) (some { inode, offset := o.received }))
  | some failure => .error (.stopped failure none)

/-- Reads a file from a position on. -/
def content {σ : Type} (rules : List RuleSet) (settings : Settings) (receive : Receiver σ)
    (f : File) (start : Nat) (s : σ) : Outcome σ :=
  run rules settings.batchSize receive start
    (byteLines settings.encoding settings.treatment start
      (Encoding.byteLines (f.bytes.drop start))) s

/-- Reads a log file on from the last marker.  Closing it can be refused: then a success turns into
that failure, and of two failures the first one counts. -/
def logFile {σ : Type} (rules : List RuleSet) (settings : Settings) (receive : Receiver σ)
    (path : Text) (last : Option Marker) (closing : Option Store.Error) (s : σ) :
    StateM World (FileOutcome σ) := do
  match (← get).store.fileAt path with
  | .error e => return ⟨s, .error (.store e)⟩
  | .ok id =>
    let found := (← get).store.file id
    if Marker.restarts last found then
      modify fun w => w.tell ⟨.info, Marker.restartMessage path⟩
    -- the message may have been written down at the end of this very file
    let f := (← get).store.file id
    let o := content rules settings receive f (Marker.resume last found 0) s
    match conclude f.inode o, closing with
    | result, none => return ⟨o.state, result⟩
    | .ok _, some e => return ⟨o.state, .error (.store e)⟩
    | .error failure, some e =>
      modify fun w =>
        w.tell ⟨.warning, ofString "failed to close " ++ path ++ ofString ": " ++ e.message⟩
      return ⟨o.state, .error failure⟩

end LineSift.Scan
