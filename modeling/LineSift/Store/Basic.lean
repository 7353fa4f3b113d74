import LineSift.Encoding.Decode
import LineSift.Store.Error
import LineSift.Store.Path

/-!
# A store of files

A store is a tree of directories with files in it.  A file has an identity apart from its place: it
can be moved, and it can be read from on when nothing leads to it any more.  The number of a file
tells it from others; it is zero where the system has no such numbers.

Operations name files by paths, and those that fail leave the store as it is; making a directory
with the directories above it can succeed in part.  There are no links from one place to another and
no permissions: a place is where its path says, and what stands there can be read and written.
-/

namespace LineSift

/-- A place in the tree: the names on the way from the root. -/
abbrev Place := List Text

/-- What stands at a place. -/
inductive Node where
  | directory
  | file (id : Nat)
  deriving DecidableEq

/-- A file. -/
structure File where
  inode : Nat
  bytes : Bytes
  deriving DecidableEq

/-- The size of a file. -/
def File.size (f : File) : Nat := f.bytes.length

/-- Directories and files. -/
structure Store where
  /-- What stands at the places that are taken. -/
  nodes : List (Place × Node) := []
  /-- The files, by identity. -/
  files : List File := []
  /-- The place where paths begin. -/
  working : Place := []
  /-- The number that the next new file gets. -/
  nextInode : Nat := 1
  deriving DecidableEq

/-- An operation that changes a store and can be refused. -/
abbrev Change (α : Type) := ExceptT Store.Error (StateM Store) α

namespace Store

/-- What stands at a place.  The root is always there. -/
def node? (s : Store) (p : Place) : Option Node :=
  if p = [] then some .directory else s.nodes.lookup p

/-- The store with something at a place. -/
def put (s : Store) (p : Place) (n : Node) : Store :=
  { s with nodes := s.nodes.filter (·.1 ≠ p) ++ [(p, n)] }

/-- The store with nothing at a place. -/
def drop (s : Store) (p : Place) : Store := { s with nodes := s.nodes.filter (·.1 ≠ p) }

/-- The longest name, in bytes. -/
def maxName : Nat := 255

/-- The longest path, in bytes. -/
def maxPath : Nat := 4095

/-- Whether a name stands for something in a directory. -/
def isProperName (name : Text) : Bool := name ≠ [] ∧ name ≠ "." ∧ name ≠ ".."

/-- A name that can stand between slashes and leads into a directory. -/
def IsName (n : Text) : Prop := isProperName n = true ∧ slash ∉ n ∧ .char '\x00' ∉ n

instance (n : Text) : Decidable (IsName n) :=
  inferInstanceAs (Decidable (isProperName n = true ∧ slash ∉ n ∧ .char '\x00' ∉ n))

/-- Goes on from a place, which must be a directory, by a name. -/
def step (s : Store) (p : Place) (name : Text) : Except Refusal Place :=
  match s.node? p with
  | none => .error .notFound
  | some (.file _) => .error .notDirectory
  | some .directory =>
    if name = [] ∨ name = "." then .ok p
    else if name = ".." then .ok p.dropLast
    else if maxName < (Encoding.encode name).length then .error .nameTooLong
    else .ok (p ++ [name])

/-- Why a path cannot lead anywhere, whatever the store holds. -/
def pathRefusal? (path : Text) : Option Refusal :=
  if .char '\x00' ∈ path then some .zeroByte
  else if path = [] then some .notFound
  else if maxPath < (Encoding.encode path).length then some .nameTooLong
  else none

/-- The place where a path begins. -/
def origin (s : Store) (path : Text) : Place := if path.head? = some slash then [] else s.working

/-- The place that a path leads to. -/
def resolve (s : Store) (path : Text) : Except Refusal Place :=
  match pathRefusal? path with
  | some r => .error r
  | none => (nameList path).foldlM s.step (s.origin path)

/-- What a path leads to, if it leads to anything. -/
def find? (s : Store) (path : Text) : Option Node :=
  match s.resolve path with
  | .ok p => s.node? p
  | .error _ => none

/-- Whether a path leads to something. -/
def found (s : Store) (path : Text) : Bool := (s.find? path).isSome

/-- Whether a path leads to a directory. -/
def isDirectory (s : Store) (path : Text) : Bool := s.find? path = some .directory

/-- Whether a path leads to a file. -/
def isFile (s : Store) (path : Text) : Bool :=
  match s.find? path with
  | some (.file _) => true
  | _ => false

/-- The text of the working directory. -/
def workingPath (s : Store) : Text := slash :: Text.join [slash] s.working

/-- The file with an identity; an empty one if there is none. -/
def file (s : Store) (id : Nat) : File := s.files.getD id ⟨0, []⟩

/-- The file that a path leads to, for reading. -/
def fileAt (s : Store) (path : Text) : Except Error Nat :=
  match s.resolve path with
  | .error r => .error ⟨r, [path]⟩
  | .ok p =>
    match s.node? p with
    | none => .error ⟨.notFound, [path]⟩
    | some .directory => .error ⟨.isDirectory, [path]⟩
    | some (.file id) => .ok id

/-- The bytes of the file that a path leads to. -/
def bytesAt (s : Store) (path : Text) : Except Error Bytes :=
  (s.fileAt path).map fun id => (s.file id).bytes

/-- The store with other bytes in a file. -/
def setBytes (s : Store) (id : Nat) (bytes : Bytes) : Store :=
  { s with files := s.files.modify id fun f => { f with bytes } }

/-- The store with more bytes at the end of a file. -/
def appendBytes (s : Store) (id : Nat) (bytes : Bytes) : Store :=
  { s with files := s.files.modify id fun f => { f with bytes := f.bytes ++ bytes } }

/-- The store with another number for a file. -/
def setInode (s : Store) (id : Nat) (inode : Nat) : Store :=
  { s with files := s.files.modify id fun f => { f with inode } }

/-- The store with one more file, which stands at a place. -/
def addFile (s : Store) (p : Place) (f : File) : Store :=
  { s.put p (.file s.files.length) with files := s.files ++ [f] }

/-- The file that a path leads to, for writing: an empty one is made if there is none. -/
def openForWriting (path : Text) : Change Nat := do
  let s ← get
  match s.resolve path with
  | .error r => throw ⟨r, [path]⟩
  | .ok p =>
    match s.node? p with
    | some .directory => throw ⟨.isDirectory, [path]⟩
    | some (.file id) => return id
    | none =>
      if path.getLast? = some slash then throw ⟨.isDirectory, [path]⟩
      set { s.addFile p ⟨s.nextInode, []⟩ with nextInode := s.nextInode + 1 }
      return s.files.length

/-- Writes a file with given bytes, in place of what it held. -/
def overwrite (path : Text) (bytes : Bytes) : Change Unit := do
  let id ← openForWriting path
  modify fun s => s.setBytes id bytes

/-- Makes a directory. -/
def makeDirectory (path : Text) : Change Unit := do
  let s ← get
  let plain := trimSlashes path
  match s.resolve (if plain = [] then path else plain) with
  | .error r => throw ⟨r, [path]⟩
  | .ok p =>
    if (s.node? p).isSome then throw ⟨.alreadyThere, [path]⟩
    set (s.put p .directory)

/-- Makes a directory unless it is there already. -/
def ensureDirectory (path : Text) : Change Unit := fun s =>
  match makeDirectory path s with
  | (.error e, s) => (if s.isDirectory path then .ok () else .error e, s)
  | done => done

/-- The directory above a path and the last name of the path. -/
def parentPath (path : Text) : Text × Text :=
  let (head, name) := splitPath path
  if name = [] then splitPath head else (head, name)

/-- Makes a directory unless it is there already, and before it those above it; `n` bounds their
number. -/
def ensureDirectories : Nat → Text → Change Unit
  | 0, path => ensureDirectory path
  | n + 1, path => do
    let s ← get
    let (head, name) := parentPath path
    if head ≠ [] ∧ name ≠ [] ∧ !s.found head then
      tryCatch (ensureDirectories n head) fun e =>
        if e.refusal = .alreadyThere then pure () else throw e
      if name = "." then return
    ensureDirectory path

/-- Makes a directory and those above it where they are not there. -/
def makeDirectories (path : Text) : Change Unit := ensureDirectories path.length path

/-- Whether a place lies in the tree below another one. -/
def isBelow (p above : Place) : Bool := above.isPrefixOf p && p ≠ above

/-- Moves what stands at a place, and all below it, to another place. -/
def move (s : Store) (source target : Place) : Store :=
  { s with
    nodes := ((s.nodes.filter (·.1 ≠ target)).map fun (p, n) =>
      if p = source ∨ isBelow p source then (target ++ p.drop source.length, n) else (p, n)) }

/-- Why what stands at a place cannot be moved to another place. -/
def moveRefusal? (s : Store) (source target : Place) : Option Refusal :=
  if isBelow target source then some .invalid
  else if isBelow source target then some .notEmpty
  else match s.node? source, s.node? target with
  | some (.file _), some .directory => some .isDirectory
  | some .directory, some (.file _) => some .notDirectory
  | some .directory, some .directory =>
    if source ≠ target ∧ s.nodes.any (fun (p, _) => isBelow p target) then some .notEmpty else none
  | _, _ => none

/-- The directory in which a path names something, and the name.  A path that ends in a dot or two,
or in the root, names nothing in a directory. -/
def resolveName (s : Store) (path : Text) : Except Refusal (Place × Text) := do
  if let some r := pathRefusal? path then throw r
  let (head, name) := splitPath (trimSlashes path)
  let p ← (nameList head).foldlM s.step (s.origin path)
  match s.node? p with
  | none => throw .notFound
  | some (.file _) => throw .notDirectory
  | some .directory => return (p, name)

/-- Whether a path ends in a slash, which only a directory may have. -/
def wantsDirectory (path : Text) : Bool := path.getLast? = some slash

/-- The places from which and to which a path is moved to another one. -/
def moved (s : Store) (source target : Text) : Except Refusal (Place × Place) := do
  let (p, a) ← s.resolveName source
  let (q, b) ← s.resolveName target
  if !isProperName a || !isProperName b then throw .busy
  let p ← s.step p a
  let n ← (s.node? p).elim (.error .notFound) .ok
  let q ← s.step q b
  if n ≠ .directory ∧ (wantsDirectory source ∨ wantsDirectory target) then throw .notDirectory
  match s.moveRefusal? p q with
  | some r => throw r
  | none => return (p, q)

/-- Moves a file or a directory; what stands at the new path is replaced at once. -/
def rename (source target : Text) : Change Unit := do
  let s ← get
  match s.moved source target with
  | .error r => throw ⟨r, [source, target]⟩
  | .ok (p, q) => if p = q then pure () else set (s.move p q)

/-- Takes a file away. -/
def remove (path : Text) : Change Unit := do
  let s ← get
  match s.resolve path with
  | .error r => throw ⟨r, [path]⟩
  | .ok p =>
    match s.node? p with
    | none => throw ⟨.notFound, [path]⟩
    | some .directory => throw ⟨.isDirectory, [path]⟩
    | some (.file _) => set (s.drop p)

/-- Gives a file a size; it loses its end, or gets zero bytes at its end. -/
def resize (path : Text) (size : Nat) : Change Unit := do
  let s ← get
  match s.fileAt path with
  | .error e => throw e
  | .ok id =>
    let bytes := (s.file id).bytes
    set (s.setBytes id (bytes.take size ++ List.replicate (size - bytes.length) 0))

/-- The name that something has in a directory, if it stands there. -/
def nameIn (p : Place) (x : Place × Node) : Option Text :=
  if x.1.dropLast = p then x.1.getLast? else none

/-- The names in a directory, in order. -/
def names (s : Store) (p : Place) : List Text :=
  Text.inOrder ((s.nodes.filterMap (nameIn p)).filter IsName)

/-- The names in the directory that a path leads to. -/
def listDirectory (s : Store) (path : Text) : Except Error (List Text) :=
  match s.resolve path with
  | .error r => .error ⟨r, [path]⟩
  | .ok p =>
    match s.node? p with
    | none => .error ⟨.notFound, [path]⟩
    | some (.file _) => .error ⟨.notDirectory, [path]⟩
    | some .directory => .ok (s.names p)

end Store

end LineSift
