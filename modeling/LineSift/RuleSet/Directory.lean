import LineSift.RuleSet.Load
import LineSift.Text.Lines
import LineSift.World

/-!
# Rule sets from files

All files of a directory whose names do not begin with a point are read, in the order of their
names, and the first one that fails decides.
-/

namespace LineSift.RuleSet

open Text (ofString)

/-- Why rules cannot be loaded from files. -/
inductive LoadError where
  | store (e : Store.Error)
  | undecodable (e : Encoding.Error)
  | noDirectory (path : Text)
  | rules (e : Error)
  deriving DecidableEq

namespace LoadError

/-- The kind of each cause. -/
def kind : LoadError → Kind
  | .store e => e.kind
  | .undecodable e => e.kind
  | .noDirectory _ => .system
  | .rules e => e.kind

/-- The wording of each cause. -/
def message : LoadError → Text
  | .store e => e.message
  | .undecodable e => e.message
  | .noDirectory path => ofString "rules directory " ++ path ++ ofString " not found"
  | .rules e => e.message

end LoadError

/-- Reads the text of a file. -/
def readText (path : Text) : Work LoadError Text := do
  let bytes ← Work.ofStore .store fun s => s.bytesAt path
  let t ← Work.ofExcept .undecodable (Encoding.decodeStrict bytes)
  return t.unifyLineEnds

/-- The rule set of a file, which is named for its path. -/
def loadFile (globals : Assoc Field) (policy path : Text) : Work LoadError RuleSet := do
  let t ← readText path
  (Work.ofLogged (ofText globals (some path) policy t)).mapError .rules

/-- The rule sets of files, in order; `check` asks that they match their samples. -/
def loadFiles (globals : Assoc Field) (check : Bool) (policy : Text) :
    List Text → Work LoadError (List RuleSet)
  | [] => return []
  | path :: paths => do
    let r ← loadFile globals policy path
    if check then
      if let some e := r.fault? then throw (.rules e)
    Work.say .debug
      (ofString "loaded " ++ Text.decimal r.templates.length ++ ofString " templates from " ++ path)
    let rs ← loadFiles globals check policy paths
    return r :: rs

/-- The paths of the rules files in a directory. -/
def filesIn (s : Store) (directory : Text) : Except Store.Error (List Text) :=
  (s.listDirectory directory).map fun names =>
    ((names.filter fun n => n.head? ≠ some (.char '.')).map (Store.joinPath directory)).filter
      s.isFile

/-- The rule sets of a directory. -/
def loadDirectory (globals : Assoc Field) (check : Bool) (policy directory : Text) :
    Work LoadError (List RuleSet) := do
  if !(← get).store.isDirectory directory then throw (.noDirectory directory)
  let paths ← Work.ofStore .store fun s => filesIn s directory
  let sets ← loadFiles globals check policy paths
  Work.say .info (ofString "loaded rules from " ++ Text.decimal sets.length ++
    ofString " files in " ++ directory)
  return sets

end LineSift.RuleSet
