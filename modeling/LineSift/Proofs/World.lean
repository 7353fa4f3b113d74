import LineSift.Proofs.Encoding.Lines
import LineSift.Proofs.Store.Refilled
import LineSift.World

/-!
# What messages do to files

A message that is left may be written down at the end of a file, but changes nothing else: every
path leads where it led before (`World.tell_fileAt`), and each file keeps its number and its bytes,
with whole lines behind them (`World.tell_file`).  So after any number of messages (`World.Noted`)
the files that they are not written into are as they were.  A world in which they are written into
no file, and whose store is a tree, carries this with it (`Ground`).
-/

namespace LineSift

open Encoding (EndsLine)

/-- The bytes of a text that ends with a line feed do so too. -/
theorem Encoding.endsLine_encode (t : Text) : EndsLine (encode (t ++ [.char '\n'])) := by
  have h : encode (t ++ [.char '\n']) = encode t ++ [0x0A] := by
    rw [encode, List.flatMap_append]
    rfl
  rw [h]
  exact endsLine_concat _

namespace World

/-- Every path leads to the same file after a message. -/
theorem tell_fileAt (w : World) (r : LogRecord) (path : Text) :
    (w.tell r).store.fileAt path = w.store.fileAt path := by
  unfold tell writeDown
  rcases w.target with _ | ⟨target, least⟩
  · rfl
  · dsimp only
    split
    · cases target with
      | errorOutput => rfl
      | file id => exact Store.fileAt_appendBytes w.store id _ path
    · rfl

/-- A message adds nothing but whole lines to a file. -/
theorem tell_file (w : World) (r : LogRecord) (id : Nat) :
    ∃ more, EndsLine more ∧ (w.tell r).store.file id =
      ⟨(w.store.file id).inode, (w.store.file id).bytes ++ more⟩ := by
  have hsame : ∃ more, EndsLine more ∧ w.store.file id =
      ⟨(w.store.file id).inode, (w.store.file id).bytes ++ more⟩ :=
    ⟨[], .nil, by rw [List.append_nil]⟩
  unfold tell writeDown
  rcases w.target with _ | ⟨target, least⟩
  · exact hsame
  · dsimp only
    split
    · cases target with
      | errorOutput => exact hsame
      | file log =>
        dsimp only
        rw [Store.file_appendBytes]
        split
        · exact ⟨_, Encoding.endsLine_encode _, rfl⟩
        · exact hsame
    · exact hsame

/-- Messages are not written into files. -/
def IsQuiet (w : World) : Prop := ∀ id least, w.target ≠ some (.file id, least)

@[simp] theorem tell_target (w : World) (r : LogRecord) : (w.tell r).target = w.target := by
  unfold tell writeDown
  rcases w.target with _ | ⟨target, least⟩
  · rfl
  · dsimp only
    split
    · cases target <;> rfl
    · rfl

theorem IsQuiet.tell_store {w : World} (h : w.IsQuiet) (r : LogRecord) :
    (w.tell r).store = w.store := by
  unfold tell writeDown
  rcases ht : w.target with _ | ⟨target, least⟩
  · rfl
  · dsimp only
    split
    · cases target with
      | errorOutput => rfl
      | file id => exact absurd ht (h id least)
    · rfl

theorem IsQuiet.tell {w : World} (h : w.IsQuiet) (r : LogRecord) : (w.tell r).IsQuiet := by
  intro id least
  rw [tell_target]
  exact h id least

/-- As long as messages go to the error output they are written into no file. -/
theorem IsQuiet.of_errorOutput {w : World} {least : Level}
    (h : w.target = some (.errorOutput, least)) : w.IsQuiet := by
  intro id least he
  rw [h] at he
  cases he

/-- Without a target messages are written nowhere. -/
theorem IsQuiet.of_none {w : World} (h : w.target = none) : w.IsQuiet := by
  intro id least he
  rw [h] at he
  cases he

/-! ## The file that messages are written into -/

/-- The store with more bytes at the end of the file that messages are written into, if there is
one. -/
def storeWith (w : World) (more : Bytes) : Store :=
  match w.target with
  | none | some (.errorOutput, _) => w.store
  | some (.file id, _) => w.store.appendBytes id more

/-- Messages are not written into a file. -/
def IsApart (w : World) (id : Nat) : Prop := ∀ least, w.target ≠ some (.file id, least)

theorem storeWith_nil (w : World) : w.storeWith [] = w.store := by
  unfold storeWith
  rcases w.target with _ | ⟨_ | id, least⟩
  · rfl
  · rfl
  · exact Store.appendBytes_nil _ _

/-- More is written behind what has been written. -/
theorem storeWith_storeWith {w w' : World} {more : Bytes} (htarget : w'.target = w.target)
    (hstore : w'.store = w.storeWith more) (more' : Bytes) :
    w'.storeWith more' = w.storeWith (more ++ more') := by
  unfold storeWith at hstore ⊢
  rw [htarget, hstore]
  rcases w.target with _ | ⟨_ | id, least⟩
  · rfl
  · rfl
  · exact Store.appendBytes_appendBytes _ _ _ _

theorem tell_storeWith (w : World) (r : LogRecord) :
    ∃ more, EndsLine more ∧ (w.tell r).store = w.storeWith more := by
  have hsame : ∃ more, EndsLine more ∧ w.store = w.storeWith more :=
    ⟨[], .nil, w.storeWith_nil.symm⟩
  unfold tell writeDown
  rcases ht : w.target with _ | ⟨target, least⟩
  · exact hsame
  · dsimp only
    split
    · cases target with
      | errorOutput => exact hsame
      | file id =>
        refine ⟨Encoding.encode (r.line w.clock), Encoding.endsLine_encode _, ?_⟩
        rw [storeWith, ht]
    · exact hsame

theorem IsQuiet.storeWith {w : World} (h : w.IsQuiet) (more : Bytes) :
    w.storeWith more = w.store := by
  unfold World.storeWith
  rcases ht : w.target with _ | ⟨_ | id, least⟩
  · rfl
  · rfl
  · exact absurd ht (h id least)

/-- Nothing but what one file holds is different. -/
theorem refilled_storeWith (w : World) (more : Bytes) : w.store.Refilled (w.storeWith more) := by
  unfold storeWith
  rcases w.target with _ | ⟨_ | id, least⟩
  · exact .refl _
  · exact .refl _
  · exact Store.refilled_appendBytes _ _ _

/-- Every path leads where it led. -/
theorem storeWith_fileAt (w : World) (more : Bytes) (path : Text) :
    (w.storeWith more).fileAt path = w.store.fileAt path := by
  unfold storeWith
  rcases w.target with _ | ⟨_ | id, least⟩
  · rfl
  · rfl
  · exact Store.fileAt_appendBytes _ _ _ _

theorem storeWith_found (w : World) (more : Bytes) (path : Text) :
    (w.storeWith more).found path = w.store.found path := by
  unfold storeWith
  rcases w.target with _ | ⟨_ | id, least⟩
  · rfl
  · rfl
  · exact Store.found_appendBytes _ _ _ _

theorem storeWith_working (w : World) (more : Bytes) :
    (w.storeWith more).working = w.store.working := by
  unfold storeWith
  rcases w.target with _ | ⟨_ | id, least⟩ <;> rfl

theorem IsApart.storeWith_file {w : World} {id : Nat} (h : w.IsApart id) (more : Bytes) :
    (w.storeWith more).file id = w.store.file id := by
  unfold World.storeWith
  rcases ht : w.target with _ | ⟨_ | k, least⟩
  · rfl
  · rfl
  · dsimp only
    rw [Store.file_appendBytes, if_neg]
    rintro ⟨rfl, -⟩
    exact h least ht

/-- Messages are not written into the file that a path leads to. -/
def LeavesAlone (w : World) (path : Text) : Prop :=
  ∀ id, w.store.fileAt path = .ok id → w.IsApart id

theorem IsQuiet.leavesAlone {w : World} (h : w.IsQuiet) (path : Text) : w.LeavesAlone path :=
  fun id _ => h id

/-- Nothing but messages lies between two worlds. -/
structure Noted (w w' : World) : Prop where
  target : w'.target = w.target
  written : ∃ more, EndsLine more ∧ w'.store = w.storeWith more

namespace Noted

variable {w w' w'' : World}

theorem of_store (htarget : w'.target = w.target) (hstore : w'.store = w.store) : Noted w w' :=
  ⟨htarget, [], .nil, hstore.trans w.storeWith_nil.symm⟩

theorem refl (w : World) : Noted w w := .of_store rfl rfl

theorem store (h : Noted w w') (hw : w.IsQuiet) : w'.store = w.store := by
  obtain ⟨more, -, hstore⟩ := h.written
  rw [hstore, hw.storeWith]

theorem quiet (h : Noted w w') (hw : w.IsQuiet) : w'.IsQuiet := by
  intro id least
  rw [h.target]
  exact hw id least

theorem apart (h : Noted w w') {id : Nat} (hw : w.IsApart id) : w'.IsApart id := by
  intro least
  rw [h.target]
  exact hw least

theorem fileAt (h : Noted w w') (path : Text) : w'.store.fileAt path = w.store.fileAt path := by
  obtain ⟨more, -, hstore⟩ := h.written
  rw [hstore, w.storeWith_fileAt]

/-- A file that messages are not written into stays as it is. -/
theorem file (h : Noted w w') {id : Nat} (hw : w.IsApart id) :
    w'.store.file id = w.store.file id := by
  obtain ⟨more, -, hstore⟩ := h.written
  rw [hstore, hw.storeWith_file]

theorem found (h : Noted w w') (path : Text) : w'.store.found path = w.store.found path := by
  obtain ⟨more, -, hstore⟩ := h.written
  rw [hstore, w.storeWith_found]

theorem working (h : Noted w w') : w'.store.working = w.store.working := by
  obtain ⟨more, -, hstore⟩ := h.written
  rw [hstore, w.storeWith_working]

theorem workingPath (h : Noted w w') : w'.store.workingPath = w.store.workingPath := by
  rw [Store.workingPath, Store.workingPath, h.working]

theorem refilled (h : Noted w w') : w.store.Refilled w'.store := by
  obtain ⟨more, -, hstore⟩ := h.written
  rw [hstore]
  exact w.refilled_storeWith more

theorem leavesAlone (h : Noted w w') {path : Text} (hw : w.LeavesAlone path) :
    w'.LeavesAlone path := fun id hid => h.apart (hw id (h.fileAt path ▸ hid))

/-- What a path leads to can be read as before, if messages are not written into it. -/
theorem bytesAt (h : Noted w w') {path : Text} (hw : w.LeavesAlone path) :
    w'.store.bytesAt path = w.store.bytesAt path := by
  rw [Store.bytesAt, Store.bytesAt, h.fileAt]
  cases hid : w.store.fileAt path with
  | error e => rfl
  | ok id => rw [Except.map, Except.map, h.file (hw id hid)]

theorem trans (h : Noted w w') (h' : Noted w' w'') : Noted w w'' := by
  obtain ⟨more, hmore, hstore⟩ := h.written
  obtain ⟨more', hmore', hstore'⟩ := h'.written
  refine ⟨h'.target.trans h.target, more ++ more', hmore.append hmore', ?_⟩
  rw [hstore', storeWith_storeWith h.target hstore]

theorem tell (w : World) (r : LogRecord) : Noted w (w.tell r) :=
  ⟨w.tell_target r, w.tell_storeWith r⟩

theorem foldl_tell (log : Log) (w : World) : Noted w (log.foldl World.tell w) := by
  induction log generalizing w with
  | nil => exact refl w
  | cons r log ih => exact (tell w r).trans (ih _)

end Noted

/-- The file that a path leads to. -/
def fileAt? (w : World) (path : Text) : Option File :=
  match w.store.fileAt path with
  | .ok id => some (w.store.file id)
  | .error _ => none

/-- A world with one file, which stands in the root. -/
def ofFile (name : Text) (f : File) : World :=
  { store := { nodes := [([name], .file 0)], files := [f] } }

theorem fileAt?_eq {w : World} {path : Text} {f : File} (h : w.fileAt? path = some f) :
    ∃ id, w.store.fileAt path = .ok id ∧ w.store.file id = f := by
  unfold fileAt? at h
  split at h
  · next id hid => exact ⟨id, hid, Option.some.inj h⟩
  · cases h

theorem tell_fileAt? {w : World} {path : Text} {f : File} (h : w.fileAt? path = some f)
    (r : LogRecord) :
    ∃ more, EndsLine more ∧ (w.tell r).fileAt? path = some ⟨f.inode, f.bytes ++ more⟩ := by
  obtain ⟨id, hid, rfl⟩ := fileAt?_eq h
  obtain ⟨more, hmore, hfile⟩ := w.tell_file r id
  refine ⟨more, hmore, ?_⟩
  unfold fileAt?
  rw [tell_fileAt, hid]
  exact congrArg some hfile

end World

/-- A world whose store is a tree, and in which messages are not written into files. -/
structure Ground extends World where
  quiet : toWorld.IsQuiet
  tree : toWorld.store.Tree

namespace Ground

instance : Coe Ground World := ⟨Ground.toWorld⟩

/-- The world in which a run begins: no target for messages has been chosen. -/
def ofTree (clock : Text) (s : FileTree) : Ground where
  store := s
  clock := clock
  quiet := .of_none rfl
  tree := s.tree

end Ground

end LineSift
