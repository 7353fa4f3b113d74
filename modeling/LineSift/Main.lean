import LineSift.Command.Paths
import Std.Time.Format

/-!
# The program

The part of the file system that a command looks at becomes a store; the command runs on it, and
then the files that it has changed are written.  Files have no numbers here, so a log file that has
been replaced is noticed only if it has become shorter.
-/

namespace LineSift.Program

/-- The path of a place. -/
def pathOf (p : Place) : String := "/" ++ "/".intercalate (p.map (·.toString))

/-- The place of a path. -/
def placeOf (s : Store) (path : Text) : Place :=
  (Store.nameList (Store.absolutePath s.workingPath path)).filter (· ≠ [])

/-- The store with what stands at a place of the system. -/
def addNode (s : Store) (p : Place) : IO Store := do
  if (s.node? p).isSome then return s
  let path := (← IO.currentDir) / pathOf p
  if ← path.isDir then return s.put p .directory
  if ← path.pathExists then return s.addFile p ⟨0, (← IO.FS.readBinFile path).toList⟩
  return s

/-- The store with the directories above a path, what the path leads to, and, if that is a
directory, what stands in it. -/
def addPath (s : Store) (path : Text) : IO Store := do
  let p := placeOf s path
  let s ← (List.range (p.length + 1)).foldlM (fun s n => addNode s (p.take n)) s
  if s.node? p ≠ some .directory then return s
  let entries ← ((← IO.currentDir) / pathOf p).readDir
  entries.foldlM (fun s e => addNode s (p ++ [Text.ofString e.fileName])) s

/-- The part of the system that a command looks at. -/
def storeFor (environment : Option Text) (arguments : List Text) : IO Store := do
  let here := Text.ofString (← IO.currentDir).toString
  let s ← addPath { working := placeOf {} here, nextInode := 0 } here
  match Command.chosen? arguments with
  | none => return s
  | some o =>
    let s ← (o.configPath? environment).toList.foldlM addPath s
    match Config.openAt (o.configPath? environment) none true false { store := s } with
    | (.ok c, _) => (o.paths c).foldlM addPath s
    | (.error _, _) => return s

/-- Makes the directories and writes the files in which a store differs from an earlier one. -/
def writeBack (before after : Store) : IO Unit :=
  after.nodes.forM fun (p, n) =>
    match n with
    | .directory => if (before.node? p).isNone then IO.FS.createDirAll (pathOf p) else pure ()
    | .file id => do
      let bytes := (after.file id).bytes
      if (before.bytesAt (Text.ofString (pathOf p))).toOption ≠ some bytes then
        IO.FS.writeBinFile (pathOf p) ⟨bytes.toArray⟩

/-- A number of at least two digits. -/
def twoDigits (n : Int) : String := if n < 10 then "0" ++ toString n else toString n

/-- The time, as it is written in front of messages. -/
def clock : IO Text := do
  let now ← Std.Time.PlainDateTime.now
  let date := "-".intercalate
    [toString (now.date.year : Int), twoDigits now.date.month.val, twoDigits now.date.day.val]
  let time := ":".intercalate
    [twoDigits now.time.hour.val, twoDigits now.time.minute.val, twoDigits now.time.second.val]
  return Text.ofString (date ++ " " ++ time)

/-- Runs the program, which is called by a path. -/
def run (path : Text) (arguments : List Text) : IO UInt32 := do
  let environment := (← IO.getEnv "LOGSIEVE_CONFIG").map Text.ofString
  let store ← storeFor environment arguments
  let world : World := { store, clock := ← clock }
  let (exit, t) := Command.run environment path arguments { world }
  writeBack store t.world.store
  IO.print t.printer.output.toString
  IO.eprint t.world.errors.toString
  match exit with
  | .returned => return 0
  | .status code => return code.toUInt32
  | .told message => IO.eprintln message.toString
  | .escaped e => IO.eprintln e.message.toString
  return 1

end LineSift.Program

/-- The program. -/
def main (arguments : List String) : IO UInt32 := do
  LineSift.Program.run (LineSift.Text.ofString (← IO.appPath).toString)
    (arguments.map LineSift.Text.ofString)
