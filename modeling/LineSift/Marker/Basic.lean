import LineSift.Json.Encode
import LineSift.Kind
import LineSift.Store.Basic

/-!
# Markers

A marker says how far a file has been read: the number of the file and an offset in bytes.  A file
with another number has taken the place of the one that was read, and a file that is shorter than
the offset has been written anew; then it is read from its beginning.  The number zero stands for a
file without one, and tells nothing.
-/

namespace LineSift

/-- How far a file has been read. -/
structure Marker where
  inode : Nat := 0
  offset : Nat := 0
  deriving DecidableEq

namespace Marker

open Text (ofString)

/-- Whether a marker says nothing. -/
def isZero (m : Marker) : Bool := m.inode = 0 ∧ m.offset = 0

/-- A marker in messages. -/
def shown (m : Marker) : Text :=
  ofString "Marker(inode=" ++ Text.decimal m.inode ++ ofString ", offset=" ++
    Text.decimal m.offset ++ ofString ")"

/-- The record of a marker. -/
def record (m : Marker) : Json :=
  .object [(ofString "inode", .int m.inode), (ofString "offset", .int m.offset)]

/-- A record that is no marker. -/
structure BadRecord where
  shown : Text
  deriving DecidableEq

/-- The wording for a record that is no marker. -/
def BadRecord.message (b : BadRecord) : Text := ofString "invalid marker record " ++ b.shown

/-- A member of a record that is a natural number. -/
def count? (name : String) (v : Json) : Option Nat :=
  match v.member? (ofString name) with
  | some (.int (.ofNat n)) => some n
  | _ => none

/-- The marker of a record. -/
def ofRecord (v : Json) : Except BadRecord Marker :=
  match count? "inode" v, count? "offset" v with
  | some inode, some offset => .ok { inode, offset }
  | _, _ => .error ⟨v.shown⟩

/-- Whether a file is not the one that a marker was taken on, or has become shorter. -/
def isStale (m : Marker) (f : File) : Bool :=
  (m.inode ≠ 0 ∧ f.inode ≠ 0 ∧ f.inode ≠ m.inode) ∨ f.size < m.offset

/-- Where to go on reading a file that has been read up to a marker; a marker that says nothing
leaves the position as it is. -/
def resume (last : Option Marker) (f : File) (pos : Nat) : Nat :=
  match last with
  | none => pos
  | some m => if m.isZero then pos else if m.isStale f then 0 else m.offset

/-- Whether a file is read from its beginning although it has a marker. -/
def restarts (last : Option Marker) (f : File) : Bool :=
  match last with
  | none => false
  | some m => !m.isZero && m.isStale f

/-- The message about a file that is read from its beginning again. -/
def restartMessage (name : Text) : Text :=
  name ++ ofString " rotated or truncated, read from the beginning"

end Marker

end LineSift
