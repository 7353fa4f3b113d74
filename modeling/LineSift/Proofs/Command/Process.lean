import LineSift.Proofs.Command.Prepare
import LineSift.Proofs.Command.Printer
import LineSift.Proofs.Marker.Saved
import LineSift.Proofs.Scan.LogFile

/-!
# Processing one log file

A log file is read on from its saved marker, and nothing but messages is left before
(`processFile_begun`).  Its unknown lines are printed.  Either all of them are printed, and the new
marker stands at the end; or printing fails within a batch, and the marker stands at the end of a
line in front of it (`scan_cases`).  In both cases the marker is saved (`processFile_cases`).
-/

namespace LineSift.Command

open Encoding (EndsLine)
open Scan (unknownIn)

/-- The marker that reading a log file on begins with: one that cannot be used counts as none. -/
def lastMarker (stateDir path : Text) (s : Store) : Marker :=
  match Marker.saved stateDir path s with
  | .ok m => m
  | .error _ => {}

theorem savedMarker_eq (stateDir path : Text) {t : Terminal}
    (ht : t.world.LeavesAlone (Marker.statePath t.world.store.workingPath stateDir path)) :
    ∃ t', savedMarker stateDir path t = (.ok (lastMarker stateDir path t.world.store), t') ∧
      t.Noted t' := by
  obtain ⟨w, hload, hnoted⟩ := Marker.load_eq stateDir path ht
  unfold savedMarker lastMarker
  rw [hload]
  cases Marker.saved stateDir path t.world.store with
  | ok m => exact ⟨_, rfl, hnoted, rfl⟩
  | error e => exact ⟨_, rfl, hnoted.trans (.tell w _), rfl⟩

/-- All unknown lines of a file from a position on were printed. -/
structure PrintsAll (rules : List RuleSet) (f : File) (start : Nat) (limit : Option Nat)
    (p : Printer) : Prop where
  shows : p.Shows (unknownIn rules (f.bytes.drop start))
  limit : p.limit = limit

/-- The unknown lines of a file from a position on were printed up to a line that is not read any
more.  A line ends at `pos`, and between there and the line that is not read are less lines than in
a full batch. -/
structure PrintsPart (rules : List RuleSet) (size : Nat) (f : File) (start pos : Nat)
    (limit : Option Nat) (p : Printer) : Prop where
  start_le : start ≤ pos
  le_size : pos ≤ f.size
  ends : EndsLine (f.bytes.take pos)
  shows : ∃ part l rest, unknownIn rules (f.bytes.drop pos) = part ++ l :: rest ∧
    part.length < size ∧
    p.Shows (unknownIn rules ((f.bytes.take pos).drop start) ++ part) ∧
    limit = some (unknownIn rules ((f.bytes.take pos).drop start) ++ part).length

section Scanning

variable (rules : List RuleSet) {size : Int} {path : Text} {last : Marker} {f : File} {start : Nat}

/-- **Reading a log file on** prints its unknown lines, all of them or a part. -/
theorem scan_cases (hsize : 1 ≤ size) {t : Terminal} (ht : t.world.IsQuiet)
    (hp : t.printer.Shows []) (hf : t.world.fileAt? path = some f) (hends : EndsLine f.bytes)
    (hstart : Marker.resume (some last) f 0 = start) (hle : start ≤ f.size)
    (hat : EndsLine (f.bytes.take start)) :
    (∃ t', scan rules { batchSize := size } path last t = (.ok ⟨f.inode, f.size⟩, t') ∧
      t.world.Noted t'.world ∧ PrintsAll rules f start t.printer.limit t'.printer) ∨
    (∃ t' fault pos, scan rules { batchSize := size } path last t =
        (.error (.stopped (.receiver fault) (some ⟨f.inode, pos⟩)), t') ∧
      t.world.Noted t'.world ∧
      PrintsPart rules size.toNat f start pos t.printer.limit t'.printer) := by
  have hnoted : t.world.Noted (Scan.noted path (some last) f t.world) := Scan.noted_world _ _ _ _
  have hg : (Scan.noted path (some last) f t.world).fileAt? path = some f := by
    rw [World.fileAt?, hnoted.store ht]
    exact hf
  have hscan : scan rules { batchSize := size } path last t =
      (Scan.conclude f.inode (Scan.content rules { batchSize := size } Printer.receive f
        (Marker.resume (some last) f 0) t.printer),
        { world := Scan.noted path (some last) f t.world,
          printer := (Scan.content rules { batchSize := size } Printer.receive f
            (Marker.resume (some last) f 0) t.printer).state }) := by
    unfold scan
    rw [Scan.logFile_eq rules _ _ (some last) hf hg]
  rw [hstart] at hscan
  rcases Scan.content_cases rules hsize Printer.receive f hle hends hat t.printer rfl with
    ⟨batches, ha, hall, hres⟩ |
    ⟨batches, batch, p, fault, pos, ha, hfail, hres, hpos, hposle, hposends, hpart, hnext, hlen⟩
  · rw [hres] at hscan
    obtain ⟨hlimit, hshows⟩ := Printer.shows_of_accepts
      (by rw [hall]; exact Scan.lineFeed_not_mem_unknownIn _ _) hp ha
    rw [hall, List.nil_append] at hshows
    exact Or.inl ⟨_, hscan, hnoted, hshows, hlimit⟩
  · rw [hres] at hscan
    obtain ⟨more, hmore⟩ := hnext
    obtain ⟨hlimit, hshows⟩ := Printer.shows_of_accepts
      (by rw [hpart]; exact Scan.lineFeed_not_mem_unknownIn _ _) hp ha
    have hbatch : ∀ l ∈ batch, .char '\n' ∉ l := fun l hl =>
      Scan.lineFeed_not_mem_unknownIn rules (f.bytes.drop pos) l
        (by rw [← hmore]; exact List.mem_append_left _ hl)
    obtain ⟨before, l, after, he, hshows', hfull⟩ := Printer.shows_of_error hbatch hshows hfail
    rw [List.nil_append, hpart] at hshows' hfull
    refine Or.inr ⟨_, fault, pos, hscan, hnoted, hpos, hposle, hposends, before, l, after ++ more,
      ?_, ?_, hshows', hlimit ▸ hfull⟩
    · rw [← hmore, he, List.append_assoc, List.cons_append]
    · rw [he, List.length_append, List.length_cons] at hlen
      omega

end Scanning

/-! ## The parts of processing a log file -/

/-- The marker that reading begins with, by the options. -/
def firstMarker (o : Options) (stateDir : Option Text) (path : Text) : Act Marker :=
  if o.ignoreState then pure {} else needed stateDir >>= (savedMarker · path)

/-- What is done with the marker that reading ends with. -/
def keepMarker (o : Options) (stateDir : Option Text) (path : Text) :
    Except Scan.FileFailure Marker → Act Unit
  | .ok m => if o.keepState then return else needed stateDir >>= (saveMarker · path m)
  | .error e => do
    if let some m := e.marker? then
      if !o.keepState then
        let d ← needed stateDir
        Act.ofWork .marker (Marker.save d path m)
    throw (.logFile e)

theorem processFile_eq (rules : List RuleSet) (s : Scan.Settings) (o : Options)
    (stateDir : Option Text) (path : Text) :
    processFile rules s o stateDir path =
      Act.say .info (Text.ofString "processing log file " ++ path) >>= fun _ =>
        firstMarker o stateDir path >>= fun last =>
          liftM (scan rules s path last : StateM Terminal _) >>= keepMarker o stateDir path := by
  unfold processFile firstMarker
  cases o.ignoreState <;> rfl

section Processing

variable (rules : List RuleSet) {size : Int} {path stateDir : Text} {f : File} {start : Nat}

/-- The marker of a path was saved, and nothing else has happened to the store. -/
def Saves (stateDir path : Text) (m : Marker) (s s' : Store) : Prop :=
  Store.replaceFile stateDir (Marker.statePath s.workingPath stateDir path) m.toBytes s =
    (.ok (), s')

theorem save_ok {m : Marker} {w : World} (hw : w.IsQuiet) {s' : Store}
    (h : Saves stateDir path m w.store s') :
    ∃ w', Marker.save stateDir path m w = (.ok (), w') ∧ w'.store = s' := by
  obtain ⟨w', hsave, hstore, -⟩ := Marker.save_eq stateDir path m hw
  unfold Saves at h
  rw [h] at hsave hstore
  exact ⟨w', hsave, hstore⟩

theorem saveMarker_ok {m : Marker} {t : Terminal} {w : World}
    (h : Marker.save stateDir path m t.world = (.ok (), w)) :
    saveMarker stateDir path m t = (.ok (), { t with world := w }) := by
  unfold saveMarker
  rw [h]

/-- Up to reading the log file nothing but messages is left, and reading begins with the saved
marker. -/
theorem processFile_begun (s : Scan.Settings) {o : Options} (hignore : o.ignoreState = false)
    {t : Terminal}
    (hstate : t.world.LeavesAlone (Marker.statePath t.world.store.workingPath stateDir path)) :
    ∃ t', t.Noted t' ∧ processFile rules s o (some stateDir) path t =
      keepMarker o (some stateDir) path
        (scan rules s path (lastMarker stateDir path t.world.store) t').1
        (scan rules s path (lastMarker stateDir path t.world.store) t').2 := by
  obtain ⟨t₁, hsay, hnoted₁⟩ : ∃ t₁,
      Act.say .info (Text.ofString "processing log file " ++ path) t = (.ok (), t₁) ∧
      t.Noted t₁ := ⟨_, rfl, .tell t.world _, rfl⟩
  have hstate₁ : t₁.world.LeavesAlone
      (Marker.statePath t₁.world.store.workingPath stateDir path) := by
    rw [hnoted₁.world.workingPath]
    exact hnoted₁.world.leavesAlone hstate
  obtain ⟨t₂, hmarker, hnoted₂⟩ := savedMarker_eq stateDir path hstate₁
  have hlast : lastMarker stateDir path t₁.world.store =
      lastMarker stateDir path t.world.store := by
    rw [lastMarker, lastMarker, Marker.saved_noted hnoted₁.world hstate]
  have hfirst : firstMarker o (some stateDir) path t₁ =
      (.ok (lastMarker stateDir path t.world.store), t₂) := by
    have hneeded : needed (some stateDir) t₁ = (.ok stateDir, t₁) := rfl
    rw [firstMarker, hignore, if_neg Bool.false_ne_true, Effect.bind_ok hneeded, hmarker, hlast]
  refine ⟨t₂, hnoted₁.trans hnoted₂, ?_⟩
  rw [processFile_eq, Effect.bind_ok hsay, Effect.bind_ok hfirst, Effect.lift_bind]

section Keeping

variable {o : Options} (hkeep : o.keepState = false) {m : Marker} {t : Terminal} {w : World}

include hkeep

theorem keepMarker_ok (h : Marker.save stateDir path m t.world = (.ok (), w)) :
    keepMarker o (some stateDir) path (.ok m) t = (.ok (), { t with world := w }) := by
  have hneeded : needed (some stateDir) t = (.ok stateDir, t) := rfl
  rw [keepMarker, hkeep, if_neg Bool.false_ne_true, Effect.bind_ok hneeded]
  exact saveMarker_ok h

/-- Where the receiver fails, the marker is kept all the same. -/
theorem keepMarker_stopped {fault : Scan.Fault}
    (h : Marker.save stateDir path m t.world = (.ok (), w)) :
    keepMarker o (some stateDir) path (.error (.stopped (.receiver fault) (some m))) t =
      (.error (.logFile (.stopped (.receiver fault) (some m))), { t with world := w }) := by
  have hneeded : needed (some stateDir) t = (.ok stateDir, t) := rfl
  have hwork : Act.ofWork .marker (Marker.save stateDir path m) t =
      (.ok (), { t with world := w }) := by
    unfold Act.ofWork
    rw [h]
    rfl
  simp only [keepMarker, Scan.FileFailure.marker?, hkeep, Bool.not_false, if_true]
  rw [Effect.bind_ok hneeded, Effect.bind_ok hwork]
  rfl

end Keeping

/-- **Processing a log file** prints its unknown lines and saves its marker, also if
printing fails. -/
theorem processFile_cases (hsize : 1 ≤ size) {o : Options} (hignore : o.ignoreState = false)
    (hkeep : o.keepState = false) {t : Terminal} (ht : t.world.IsQuiet) (hp : t.printer.Shows [])
    (hwrite : ∀ m, ∃ s', Saves stateDir path m t.world.store s')
    (hf : t.world.fileAt? path = some f) (hends : EndsLine f.bytes)
    (hstart : Marker.resume (some (lastMarker stateDir path t.world.store)) f 0 = start)
    (hle : start ≤ f.size) (hat : EndsLine (f.bytes.take start)) :
    (∃ t', processFile rules { batchSize := size } o (some stateDir) path t = (.ok (), t') ∧
      Saves stateDir path ⟨f.inode, f.size⟩ t.world.store t'.world.store ∧
      PrintsAll rules f start t.printer.limit t'.printer) ∨
    (∃ t' fault pos, processFile rules { batchSize := size } o (some stateDir) path t =
        (.error (.logFile (.stopped (.receiver fault) (some ⟨f.inode, pos⟩))), t') ∧
      Saves stateDir path ⟨f.inode, pos⟩ t.world.store t'.world.store ∧
      PrintsPart rules size.toNat f start pos t.printer.limit t'.printer) := by
  obtain ⟨t₂, hnoted, hprocess⟩ :=
    processFile_begun rules { batchSize := size } hignore (ht.leavesAlone _)
  have ht₂ := hnoted.world.quiet ht
  have hstore := hnoted.world.store ht
  have hf₂ : t₂.world.fileAt? path = some f := by
    rw [World.fileAt?, hstore]
    exact hf
  have hsave : ∀ m {t₃ : Terminal}, t₂.world.Noted t₃.world →
      ∃ w, Marker.save stateDir path m t₃.world = (.ok (), w) ∧
        Saves stateDir path m t.world.store w.store := by
    intro m t₃ hnoted₃
    obtain ⟨s', hs'⟩ := hwrite m
    rw [← hstore, ← hnoted₃.store ht₂] at hs'
    obtain ⟨w, hw, rfl⟩ := save_ok (hnoted₃.quiet ht₂) hs'
    rw [hnoted₃.store ht₂, hstore] at hs'
    exact ⟨w, hw, hs'⟩
  rw [hprocess]
  rcases scan_cases rules hsize ht₂ (hnoted.printer ▸ hp) hf₂ hends hstart hle hat with
    ⟨t₃, hscan, hnoted₃, hall⟩ | ⟨t₃, fault, pos, hscan, hnoted₃, hpart⟩
  · rw [hscan]
    obtain ⟨w, hsave, hsaves⟩ := hsave ⟨f.inode, f.size⟩ hnoted₃
    exact Or.inl ⟨_, keepMarker_ok hkeep hsave, hsaves, hnoted.printer ▸ hall⟩
  · rw [hscan]
    obtain ⟨w, hsave, hsaves⟩ := hsave ⟨f.inode, pos⟩ hnoted₃
    exact Or.inr ⟨{ t₃ with world := w }, fault, pos, keepMarker_stopped hkeep hsave, hsaves,
      hnoted.printer ▸ hpart⟩

end Processing

end LineSift.Command
