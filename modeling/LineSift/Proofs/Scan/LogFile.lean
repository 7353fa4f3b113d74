import LineSift.Proofs.Scan.Content
import LineSift.Proofs.World

/-!
# Reading a log file on from a marker

What reading a log file on delivers depends on the file that its path leads to, after the message
that it is read from its beginning again, and on the position that the marker stands for
(`logFile_eq`).  A receiver that keeps what it accepts shows what has been delivered
(`accepts_collecting`).
-/

namespace LineSift.Scan

open Encoding (EndsLine)

/-- The world in which a log file is read: it may hold the message that the file is read from its
beginning again. -/
def noted (path : Text) (last : Option Marker) (f : File) (w : World) : World :=
  if Marker.restarts last f then w.tell ⟨.info, Marker.restartMessage path⟩ else w

theorem noted_world (path : Text) (last : Option Marker) (f : File) (w : World) :
    w.Noted (noted path last f w) := by
  unfold noted
  split
  · exact .tell _ _
  · exact .refl _

/-- The file is the same in that world, but for whole lines that may stand behind it. -/
theorem noted_fileAt? {path : Text} {w : World} {f : File} (h : w.fileAt? path = some f)
    (last : Option Marker) :
    ∃ more, EndsLine more ∧
      (noted path last f w).fileAt? path = some ⟨f.inode, f.bytes ++ more⟩ := by
  unfold noted
  split
  · exact World.tell_fileAt? h _
  · exact ⟨[], .nil, by rw [List.append_nil, h]⟩

variable {σ : Type}

/-- Reading a log file on, where closing it is not refused. -/
theorem logFile_apply (rules : List RuleSet) (settings : Settings) (receive : Receiver σ)
    (path : Text) (last : Option Marker) (s : σ) (w : World) :
    logFile rules settings receive path last none s w =
      match w.store.fileAt path with
      | .error e => (⟨s, .error (.store e)⟩, w)
      | .ok id =>
        let w' := noted path last (w.store.file id) w
        let o := content rules settings receive (w'.store.file id)
          (Marker.resume last (w.store.file id) 0) s
        (⟨o.state, conclude (w'.store.file id).inode o⟩, w') := by
  unfold logFile noted
  cases hid : w.store.fileAt path with
  | error e =>
    simp only [bind, StateT.bind, get, getThe, MonadStateOf.get, StateT.get, pure, hid]
    rfl
  | ok id =>
    simp only [bind, StateT.bind, get, getThe, MonadStateOf.get, StateT.get, pure, hid, modify,
      modifyGet, MonadStateOf.modifyGet]
    split <;> rfl

/-- Reading on a log file that is there. -/
theorem logFile_eq (rules : List RuleSet) (settings : Settings) (receive : Receiver σ)
    {path : Text} {w : World} {f g : File} (last : Option Marker) (hf : w.fileAt? path = some f)
    (hg : (noted path last f w).fileAt? path = some g) (s : σ) :
    logFile rules settings receive path last none s w =
      (⟨(content rules settings receive g (Marker.resume last f 0) s).state,
        conclude g.inode (content rules settings receive g (Marker.resume last f 0) s)⟩,
       noted path last f w) := by
  obtain ⟨id, hid, rfl⟩ := World.fileAt?_eq hf
  have hsame : (noted path last (w.store.file id) w).store.fileAt path = .ok id := by
    unfold noted
    split
    · rw [World.tell_fileAt, hid]
    · exact hid
  obtain ⟨id', hid', rfl⟩ := World.fileAt?_eq hg
  obtain rfl : id = id' := Except.ok.inj (hsame.symm.trans hid')
  rw [logFile_apply, hid]

/-! ## Keeping what is delivered -/

/-- A receiver that keeps the batches it accepts.  Whether it accepts a batch may depend on all that
it has accepted before. -/
def collecting (verdict : List (List Text) → List Text → Option Fault) :
    Receiver (List (List Text)) := fun batch kept =>
  match verdict kept batch with
  | none => (.ok (), kept ++ [batch])
  | some fault => (.error fault, kept)

theorem accepts_collecting {verdict : List (List Text) → List Text → Option Fault}
    {batches kept kept' : List (List Text)} (h : Accepts (collecting verdict) batches kept kept') :
    kept' = kept ++ batches := by
  induction h with
  | nil s => rw [List.append_nil]
  | @cons batch batches s s' s'' hb _ ih =>
    unfold collecting at hb
    split at hb
    · cases hb
      rw [ih, List.append_assoc, List.singleton_append]
    · cases hb

theorem collecting_error {verdict : List (List Text) → List Text → Option Fault}
    {batch : List Text} {kept kept' : List (List Text)} {fault : Fault}
    (h : collecting verdict batch kept = (.error fault, kept')) :
    kept' = kept ∧ verdict kept batch = some fault := by
  unfold collecting at h
  split at h
  · cases h
  · next hv =>
    cases h
    exact ⟨rfl, hv⟩

end LineSift.Scan
