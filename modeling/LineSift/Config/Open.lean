import LineSift.Config.Packaged
import LineSift.Config.Read
import LineSift.World

/-!
# Opening a configuration

The file of a configuration is named by the caller or by the environment.  Its options win over the
packaged ones.  Global fields stand in sections of their own, whose names begin with a mark.
-/

namespace LineSift.Config

open Text (ofString)

/-- The section that names the file. -/
def generalSection : Text := "general"

/-- Reads the file of a configuration and notes its name. -/
def fromFile (path : Text) : Work Error Config := do
  if !(← get).store.found path then throw (.notFound path)
  match (← get).store.bytesAt path with
  | .error _ => throw (.unreadable path)
  | .ok bytes =>
    let c ← Work.ofExcept id (parse path bytes)
    return c.put generalSection "base_filename" path

/-- Opens a configuration by the name that is given, or else by the one in the environment.
`complete` asks for the packaged options, `verbose` for a message if there is no file. -/
def openAt (given environment : Option Text) (complete verbose : Bool) : Work Error Config := do
  let c ← match given.or environment with
    | some path => fromFile path
    | none =>
      if verbose then Work.say .info (ofString "Processing with default configuration ...")
      pure {}
  return if complete then c.withDefaults packaged else c

/-- The mark of a section that defines a field. -/
def fieldMark : Text := "field:"

/-- Makes the fields of sections. -/
def fieldsOf (c : Config) (check : Bool) (fields : Assoc Field) :
    List Text → Logged Error (Assoc Field)
  | [] => return fields
  | sec :: secs =>
    if fieldMark.isPrefixOf sec then do
      let name := Text.strip (sec.drop fieldMark.length)
      let f ← Field.load .field name (c.options sec)
      if check then
        if let some bad := f.badSample? then throw (.fieldSample bad)
      fieldsOf c check (fields.put name f) secs
    else fieldsOf c check fields secs

/-- The global fields of a configuration, in the order of their sections. -/
def globalFields (c : Config) (check : Bool) : Logged Error (Assoc Field) :=
  fieldsOf c check [] c.sections.keys

end LineSift.Config
