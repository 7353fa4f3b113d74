import LineSift.Kind
import LineSift.Text.Number
import LineSift.Text.Quoted

/-!
# Refused operations on files

The system refuses an operation with a number, a reason, and the paths that were given.
-/

namespace LineSift.Store

/-- Why an operation is refused. -/
inductive Refusal where
  | notFound
  | alreadyThere
  | notDirectory
  | isDirectory
  | invalid
  | brokenPipe
  | nameTooLong
  | notEmpty
  | busy
  /-- A path has a zero byte in it. -/
  | zeroByte
  /-- Closing a file fails. -/
  | closing
  deriving DecidableEq

namespace Refusal

/-- The number of a reason; none if it does not come from the system. -/
def number? : Refusal → Option Nat
  | .notFound => some 2
  | .busy => some 16
  | .alreadyThere => some 17
  | .notDirectory => some 20
  | .isDirectory => some 21
  | .invalid => some 22
  | .brokenPipe => some 32
  | .nameTooLong => some 36
  | .notEmpty => some 39
  | .zeroByte | .closing => none

/-- The wording of a reason. -/
def message : Refusal → String
  | .notFound => "No such file or directory"
  | .alreadyThere => "File exists"
  | .notDirectory => "Not a directory"
  | .isDirectory => "Is a directory"
  | .invalid => "Invalid argument"
  | .brokenPipe => "Broken pipe"
  | .nameTooLong => "File name too long"
  | .notEmpty => "Directory not empty"
  | .busy => "Device or resource busy"
  | .zeroByte => "embedded null byte"
  | .closing => "close failed"

/-- The kind of a reason. -/
def kind : Refusal → Kind
  | .notFound => .notFound
  | .alreadyThere => .alreadyThere
  | .notDirectory => .notDirectory
  | .isDirectory => .isDirectory
  | .brokenPipe => .brokenPipe
  | .zeroByte => .badValue
  | .invalid | .nameTooLong | .notEmpty | .busy | .closing => .system

end Refusal

/-- A refused operation, with the paths that it was about. -/
structure Error where
  refusal : Refusal
  paths : List Text := []
  deriving DecidableEq

namespace Error

/-- The kind of a refused operation. -/
def kind (e : Error) : Kind := e.refusal.kind

open Text (ofString)

/-- The wording for a refused operation. -/
def message (e : Error) : Text :=
  match e.refusal.number? with
  | none => ofString e.refusal.message
  | some n =>
    ofString "[Errno " ++ Text.decimal n ++ ofString "] " ++ ofString e.refusal.message ++
      if e.paths = [] then []
      else ofString ": " ++ Text.join (ofString " -> ") (e.paths.map Text.shown)

end Error

end LineSift.Store
