import LineSift.Json.Decode
import LineSift.Marker.Basic
import LineSift.Text.Lines
import LineSift.World

/-!
# Saved markers

The marker of each file is kept in a file of its own, whose name is made from the absolute path.
It is written under another name first and then moved, so that there is a whole marker at every
moment.
-/

namespace LineSift.Marker

open Text (ofString)

/-- Why a saved marker cannot be used, or not be saved. -/
inductive SavedError where
  | store (e : Store.Error)
  | undecodable (e : Encoding.Error)
  | notJson (e : Json.Error)
  | badRecord (e : BadRecord)
  deriving DecidableEq

namespace SavedError

/-- The kind of each cause. -/
def kind : SavedError → Kind
  | .store e => e.kind
  | .undecodable e => e.kind
  | .notJson e => e.kind
  | .badRecord _ => .badValue

/-- The wording of each cause. -/
def message : SavedError → Text
  | .store e => e.message
  | .undecodable e => e.message
  | .notJson e => e.message
  | .badRecord e => e.message

end SavedError

/-- The name of the file that keeps the marker of a path: its slashes become points. -/
def stateName (working path : Text) : Text :=
  ((Store.absolutePath working path).map fun c => if c = Store.slash then .char '.' else c) ++
    ofString ".pos"

/-- The path of the file that keeps the marker of a path. -/
def statePath (working stateDir path : Text) : Text :=
  Store.joinPath stateDir (stateName working path)

/-- Reads a marker from the bytes of its file. -/
def ofBytes (bytes : Bytes) : Except SavedError Marker := do
  let t ← (Encoding.decodeStrict bytes).mapError .undecodable
  let v ← (Json.decode t.unifyLineEnds).mapError .notJson
  (ofRecord v).mapError .badRecord

/-- The bytes of the file that keeps a marker. -/
def toBytes (m : Marker) : Bytes := Encoding.encode (m.record.encode ++ [.char '\n'])

/-- The saved marker of a path; if there is none, one that says nothing. -/
def load (stateDir path : Text) : Work SavedError Marker := do
  let place := statePath (← get).store.workingPath stateDir path
  Work.say .debug (ofString "trying to load position from state file " ++ place)
  if (← get).store.found place then
    let bytes ← Work.ofStore .store fun s => s.bytesAt place
    Work.ofExcept id (ofBytes bytes)
  else
    Work.say .info (ofString "last position for " ++ path ++ ofString " not found")
    return {}

/-- Saves a marker for a path. -/
def save (stateDir path : Text) (m : Marker) : Work SavedError Unit := do
  let place := statePath (← get).store.workingPath stateDir path
  Work.say .debug (ofString "saving position to state file " ++ place)
  let temporary := place ++ ofString ".tmp"
  Work.ofChange .store do
    Store.makeDirectories stateDir
    Store.overwrite temporary m.toBytes
    Store.rename temporary place

end LineSift.Marker
