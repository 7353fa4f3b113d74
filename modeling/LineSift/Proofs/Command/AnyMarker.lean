import LineSift.Proofs.Command.Routine
import LineSift.Proofs.Marker.Apart
import LineSift.Proofs.Marker.Held

/-!
# Runs after anything has happened to the saved marker

The file of the saved marker may hold anything when a run begins.  The run prints the unknown lines
from where that says (`Marker.StartsAt`), and leaves a marker at the end of the log file
(`Routine.run_whatever_saved`).  Messages may be written into a file, too, as long as it is neither
the log file nor that of the marker (`printed_of_own_messages`).
-/

namespace LineSift.Command

open Scan (unknownIn)
open Text (ofString)

/-- The marker that reading begins with comes from the bytes of its file. -/
theorem lastMarker_eq {s : Store} {stateDir path : Text} {id : Nat}
    (h : s.fileAt (Marker.statePath s.workingPath stateDir path) = .ok id) :
    lastMarker stateDir path s = (Marker.ofBytes (s.file id).bytes).toOption.getD {} := by
  obtain ⟨p, hp, hnode⟩ := Store.fileAt_eq_ok.mp h
  have hfound : s.found (Marker.statePath s.workingPath stateDir path) = true := by
    rw [Store.found, Store.find?, hp]
    simp [hnode]
  have hbytes : s.bytesAt (Marker.statePath s.workingPath stateDir path) =
      .ok (s.file id).bytes := by
    rw [Store.bytesAt, h]
    rfl
  have hsaved : Marker.saved stateDir path s = Marker.ofBytes (s.file id).bytes := by
    unfold Marker.saved
    dsimp only
    rw [if_pos hfound, hbytes]
    rfl
  rw [lastMarker, hsaved]
  cases Marker.ofBytes (s.file id).bytes <;> rfl

section Processing

variable (rules : List RuleSet) {size : Int} {path stateDir : Text} {id start : Nat} {t : Terminal}

/-- **Reading a log file on**, into which no messages are written, prints its unknown lines if all
of them are read. -/
theorem scan_whole (hsize : 1 ≤ size) (hp : t.printer.Shows [])
    (hid : t.world.store.fileAt path = .ok id) (hapart : t.world.IsApart id) {last : Marker}
    (hstart : Marker.resume (some last) (t.world.store.file id) 0 = start)
    (hle : start ≤ (t.world.store.file id).size)
    (hroom : ∀ n, t.printer.limit = some n →
      (unknownIn rules ((t.world.store.file id).bytes.drop start)).length ≤ n) :
    ∃ t', scan rules { batchSize := size } path last t =
        (.ok ⟨(t.world.store.file id).inode, (t.world.store.file id).size⟩, t') ∧
      t.world.Noted t'.world ∧
      t'.printer.Shows (unknownIn rules ((t.world.store.file id).bytes.drop start)) := by
  have hnoted := Scan.noted_world path (some last) (t.world.store.file id) t.world
  have hfile := hnoted.file hapart
  obtain ⟨f, hf⟩ : ∃ f, t.world.store.file id = f := ⟨_, rfl⟩
  rw [hf] at hnoted hfile hstart hle hroom ⊢
  have hscan : scan rules { batchSize := size } path last t =
      (Scan.conclude f.inode (Scan.content rules { batchSize := size } Printer.receive f start
        t.printer),
        { world := Scan.noted path (some last) f t.world,
          printer := (Scan.content rules { batchSize := size } Printer.receive f start
            t.printer).state }) := by
    unfold scan
    rw [Scan.logFile_apply, hid]
    dsimp only
    rw [hf, hfile, hstart]
  have hls := Scan.lineFeed_not_mem_unknownIn rules (f.bytes.drop start)
  rcases Scan.content_outcome rules hsize Printer.receive f hle t.printer rfl with
    ⟨batches, ha, hall, hres⟩ | ⟨before, b, after, p, fault, hplan, ha, hfail, -⟩
  · rw [hres] at hscan
    obtain ⟨-, hshows⟩ := Printer.shows_of_accepts (by rw [hall]; exact hls) hp ha
    rw [hall, List.nil_append] at hshows
    exact ⟨_, hscan, hnoted, hshows⟩
  · -- a batch that is not received goes beyond the lines that are read
    have hlines := Scan.filePlan_lines rules size.toNat
      (Encoding.byteLines (f.bytes.drop start)) [] start
    rw [hplan, List.map_append, List.map_cons, List.flatten_append, List.flatten_cons,
      List.nil_append] at hlines
    rw [← unknownIn] at hlines
    have hmem {l : Text} (hl : l ∈ (before.map Scan.Batch.lines).flatten ++ b.lines) :
        l ∈ unknownIn rules (f.bytes.drop start) := by
      rw [← hlines, ← List.append_assoc]
      exact List.mem_append_left _ hl
    obtain ⟨hlimit, hshows⟩ := Printer.shows_of_accepts
      (fun l hl => hls l (hmem (List.mem_append_left _ hl))) hp ha
    obtain ⟨done, l, rest, hb, -, hfull⟩ := Printer.shows_of_error
      (fun l hl => hls l (hmem (List.mem_append_right _ hl))) hshows hfail
    have hle := hroom _ (hlimit ▸ hfull)
    rw [← hlines, hb] at hle
    simp only [List.nil_append, List.length_append, List.length_cons] at hle
    omega

/-- **Processing a log file** into which no messages are written prints its unknown lines, if all of
them are read, and saves a marker at its end. -/
theorem processFile_whole (hsize : 1 ≤ size) {o : Options} (hignore : o.ignoreState = false)
    (hkeep : o.keepState = false) (hp : t.printer.Shows [])
    (hid : t.world.store.fileAt path = .ok id) (hapart : t.world.IsApart id)
    (hstate : t.world.LeavesAlone (Marker.statePath t.world.store.workingPath stateDir path))
    (hstart : Marker.resume (some (lastMarker stateDir path t.world.store))
      (t.world.store.file id) 0 = start)
    (hle : start ≤ (t.world.store.file id).size)
    (hroom : ∀ n, t.printer.limit = some n →
      (unknownIn rules ((t.world.store.file id).bytes.drop start)).length ≤ n)
    {m : Marker} {s : Store} (hwrite : Saves stateDir path m t.world.store s) :
    ∃ t' w, processFile rules { batchSize := size } o (some stateDir) path t = (.ok (), t') ∧
      t.world.Noted w ∧
      Saves stateDir path ⟨(t.world.store.file id).inode, (t.world.store.file id).size⟩ w.store
        t'.world.store ∧
      t'.printer.Shows (unknownIn rules ((t.world.store.file id).bytes.drop start)) := by
  obtain ⟨t₂, hnoted, hprocess⟩ :=
    processFile_begun rules { batchSize := size } hignore hstate
  have hfile := hnoted.world.file hapart
  rw [← hfile] at hstart hle hroom ⊢
  obtain ⟨t₃, hscan, hnoted₃, hshows⟩ := scan_whole rules hsize (hnoted.printer ▸ hp)
    ((hnoted.world.fileAt path).trans hid) (hnoted.world.apart hapart) hstart hle
    (hnoted.printer ▸ hroom)
  obtain ⟨w, hnoted₄, hsave⟩ := Marker.save_apply stateDir path
    ⟨(t₂.world.store.file id).inode, (t₂.world.store.file id).size⟩ t₃.world
  have hwhole := (hnoted.world.trans hnoted₃).trans hnoted₄
  have hplace : t₃.world.store.workingPath = w.store.workingPath := hnoted₄.workingPath.symm
  unfold Saves at hwrite
  rw [← hwhole.workingPath] at hwrite
  obtain ⟨s', hsaves⟩ := Store.replaceFile_of_refilled hwhole.refilled hwrite
    (Marker.toBytes ⟨(t₂.world.store.file id).inode, (t₂.world.store.file id).size⟩)
  rw [hplace, hsaves] at hsave
  refine ⟨{ t₃ with world := { w with store := s' } }, w, ?_, hwhole, hsaves, hshows⟩
  rw [hprocess, hscan]
  exact keepMarker_ok hkeep hsave

end Processing

namespace Routine

variable (k : Routine) {clock : Text} {limit : Option Nat} {s : FileTree} {t : Terminal}
  {id state : Nat}

/-- **Whatever the file of the saved marker holds**, a run begins to read where its bytes say.  If
all that it prints is read, it succeeds, has printed the unknown lines from there on, and has saved
a marker at the end of the log file.  Messages are written into neither of the two files. -/
theorem run_whatever_saved
    (hprepare : prepare k.environment (.ofGiven k.given k.operands) (terminal clock limit s) =
      (.ok ⟨k.rules, { batchSize := k.size }, some k.stateDir, [k.path]⟩, t))
    (hid : s.fileAt k.path = .ok id)
    (hstate : s.fileAt (Marker.statePath s.workingPath k.stateDir k.path) = .ok state)
    (hapart : t.world.IsApart id ∧ t.world.IsApart state)
    (hinode : (s.file id).inode ≠ 0)
    (hshort : Json.IsShort (s.file id).inode ∧ Json.IsShort (s.file id).size)
    (hwrite : ∃ m s', Saves k.stateDir k.path m t.world.store s') :
    ∃ start, Marker.StartsAt (s.file state).bytes (s.file id) start ∧
      let lines := unknownIn k.rules ((s.file id).bytes.drop start)
      let r := k.run clock limit s
      ((∀ n, limit = some n → lines.length ≤ n) →
        r.exit = .returned ∧ r.printed = Printer.asLines lines ∧
        (Marker.load k.stateDir k.path { store := r.after }).1 =
          .ok ⟨(s.file id).inode, (s.file id).size⟩) := by
  have hbegun : prepare k.environment (.ofGiven k.given k.operands)
      ⟨Ground.ofTree clock s, { limit }⟩ =
        (.ok ⟨k.rules, { batchSize := k.size }, some k.stateDir, [k.path]⟩, t) := hprepare
  obtain ⟨⟨w, hkept, hnoted⟩, hprinter⟩ := prepare_kept hbegun
  obtain ⟨hlog, hmarker⟩ := hapart
  have hworking : t.world.store.workingPath = s.workingPath := by
    rw [hnoted.workingPath, Store.workingPath, hkept.working]
    rfl
  -- both files are as they were before the run
  obtain ⟨hid', hfile⟩ : _ ∧ t.world.store.file id = s.file id :=
    prepare_fileAt hbegun hid hlog
  obtain ⟨hstate', hbytes⟩ : _ ∧ t.world.store.file state = s.file state :=
    prepare_fileAt hbegun hstate hmarker
  rw [← hworking] at hstate'
  have hlast : lastMarker k.stateDir k.path t.world.store =
      (Marker.ofBytes (s.file state).bytes).toOption.getD {} := by
    rw [lastMarker_eq hstate', hbytes]
  have halone : t.world.LeavesAlone
      (Marker.statePath t.world.store.workingPath k.stateDir k.path) := by
    intro i hi
    obtain rfl := Except.ok.inj (hstate'.symm.trans hi)
    exact hmarker
  have hstart := Marker.startsAt_resume (s.file state).bytes hinode
  refine ⟨_, hstart, ?_⟩
  intro lines r hroom
  obtain ⟨m, s', hwrite⟩ := hwrite
  have hsize : (1 : Int) ≤ k.size := Int.ofNat_le.mpr k.size_pos
  have hprocess := processFile_whole k.rules hsize
    k.loads k.saves (hprinter ▸ Printer.shows_nil limit) hid' hlog halone rfl
    (by rw [hlast, hfile]; exact hstart.le_size)
    (by rw [hlast, hfile, hprinter]; exact hroom) hwrite
  rw [hlast, hfile] at hprocess
  obtain ⟨t', w', hprocess, hnoted', hsaves, hshows⟩ := hprocess
  have hr : r = ⟨s, limit, .returned, (stopWriting t').printer.output,
      (stopWriting t').world.store⟩ :=
    run_eq (runCommand_prepared hprepare hprocess)
  have htree : w'.store.Tree := hnoted'.refilled.tree (hnoted.refilled.tree hkept.tree)
  rw [hr]
  refine ⟨rfl, hshows.output, ?_⟩
  rw [Marker.load_fst _ _ (.of_none rfl)]
  exact Marker.saved_of_save htree hshort hsaves

/-! ## Messages that are written into a file -/

/-- A log file of two lines, the directories of rules and of saved markers, and files for a marker
and for a configuration. -/
def configurable : FileTree where
  nodes := [(["log"], .file 0), (["rules"], .directory), (["state"], .directory),
    (["state", ".log.pos"], .file 1), (["conf"], .file 2)]
  files := [⟨7, [0x61, 0x0A, 0x62, 0x0A]⟩, ⟨8, []⟩, ⟨9, []⟩]
  tree := by apply Store.Tree.of_nodes <;> decide

/-- The same with a part of the configuration, and some bytes in the file of the marker. -/
def configured (configuration state : Text) : FileTree :=
  configurable.withFiles
    [⟨7, [0x61, 0x0A, 0x62, 0x0A]⟩, ⟨8, Encoding.encode state⟩,
      ⟨9, Encoding.encode (ofString "[general]\nrules_dir = rules\nstate_dir = state\n" ++
        configuration ++ ofString "[process]\nbatch_size = 2\n")⟩] rfl

/-- The log file is read without any rules, by a configuration. -/
def configuredRoutine : Routine where
  environment := none
  program := "logsieve process"
  arguments := ["-c", "conf", "-v", "log"]
  given := [(.config, some "conf"), (.verbose, none)]
  operands := ["log"]
  parsed := by rfl
  unhelped := by rfl
  loads := by rfl
  saves := by rfl
  rules := []
  size := 2
  size_pos := by decide
  stateDir := "state"
  path := "log"

/-- A file of the marker in which each number stands twice, while messages are written into a file
that is made for them. -/
def repeatedStore : FileTree :=
  configured "logging = own\n"
    "\x7b\"inode\": 7, \"offset\": 0, \"offset\": 2, \"inode\": 0\x7d"

/-- What a run begins with, and the terminal that is left then. -/
def repeatedStart : Except Failure Prepared × Terminal :=
  prepare none (.ofGiven configuredRoutine.given configuredRoutine.operands)
    (terminal [] none repeatedStore)

/-- The last ones count. -/
theorem run_whatever_saved_repeated :
    Marker.StartsAt (repeatedStore.file 1).bytes (repeatedStore.file 0) 2 ∧
    (configuredRoutine.run [] none repeatedStore).exit = .returned ∧
    (configuredRoutine.run [] none repeatedStore).printed = ofString "b\n" ∧
    (Marker.load "state" "log" { store := (configuredRoutine.run [] none repeatedStore).after }).1 =
      .ok ⟨7, 4⟩ := by
  obtain ⟨hprepare, htarget, hwrite⟩ : repeatedStart.1 =
        .ok ⟨[], { batchSize := 2 }, some (ofString "state"), [ofString "log"]⟩ ∧
      repeatedStart.2.world.target = some (.file 3, .info) ∧
      (Store.replaceFile "state"
        (Marker.statePath repeatedStart.2.world.store.workingPath "state" "log")
        (Marker.toBytes {}) repeatedStart.2.world.store).1 = .ok () := by
    decide +kernel
  rcases hbegun : repeatedStart with ⟨r, t⟩
  rw [hbegun] at hprepare htarget hwrite
  obtain rfl : r = .ok ⟨[], { batchSize := 2 }, some (ofString "state"), [ofString "log"]⟩ :=
    hprepare
  have hapart {i : Nat} (hi : i ≠ 3) : t.world.IsApart i := by
    intro least he
    rw [htarget] at he
    cases he
    exact hi rfl
  have hstart : Marker.StartsAt (repeatedStore.file 1).bytes (repeatedStore.file 0) 2 := by
    have hholds : Marker.ofBytes (repeatedStore.file 1).bytes = .ok ⟨0, 2⟩ := by decide +kernel
    exact Or.inl ⟨_, Marker.ofBytes_eq_ok.mp hholds, ⟨Or.inl rfl, by decide⟩, rfl⟩
  have hid : repeatedStore.fileAt "log" = .ok 0 := by decide +kernel
  have hstate : repeatedStore.fileAt (Marker.statePath repeatedStore.workingPath "state" "log") =
      .ok 1 := by
    decide +kernel
  have hprepare : prepare configuredRoutine.environment
      (.ofGiven configuredRoutine.given configuredRoutine.operands)
      (terminal [] none repeatedStore) =
        (.ok ⟨configuredRoutine.rules, { batchSize := configuredRoutine.size },
          some configuredRoutine.stateDir, [configuredRoutine.path]⟩, t) := hbegun
  obtain ⟨start, hstart', hrun⟩ := configuredRoutine.run_whatever_saved hprepare hid hstate
    ⟨hapart (by decide), hapart (by decide)⟩ (by decide) (by decide +kernel)
    ⟨{}, _, Prod.ext hwrite rfl⟩
  obtain rfl := hstart.unique hstart'
  obtain ⟨hexit, hprinted, hload⟩ := hrun (by rintro n ⟨⟩)
  exact ⟨hstart, hexit, hprinted.trans (by decide +kernel), hload⟩

/-- Messages are written into the log file, and the file of the marker holds no marker. -/
def ownLogStore : FileTree := configured "logging = log\n" "x"

/-- Messages are written into the file of the marker, which holds one. -/
def ownStateStore : FileTree :=
  configured "logging = state/.log.pos\n" "\x7b\"inode\": 0, \"offset\": 2\x7d"

/-- Messages that are written into the log file are printed as its lines, and the marker is saved
behind them; and a marker with messages behind it is not read any more. -/
theorem printed_of_own_messages :
    (Marker.StartsAt (ownLogStore.file 1).bytes (ownLogStore.file 0) 0 ∧
      (configuredRoutine.run [] none ownLogStore).printed ≠
        Printer.asLines (unknownIn [] ((ownLogStore.file 0).bytes.drop 0)) ∧
      (Marker.load "state" "log" { store := (configuredRoutine.run [] none ownLogStore).after }).1 ≠
        .ok ⟨7, 4⟩) ∧
    Marker.StartsAt (ownStateStore.file 1).bytes (ownStateStore.file 0) 2 ∧
      (configuredRoutine.run [] none ownStateStore).printed ≠
        Printer.asLines (unknownIn [] ((ownStateStore.file 0).bytes.drop 2)) := by
  have hnone : (Marker.ofBytes (ownLogStore.file 1).bytes).toOption = none := by decide +kernel
  have hsome : Marker.ofBytes (ownStateStore.file 1).bytes = .ok ⟨0, 2⟩ := by decide +kernel
  refine ⟨⟨Or.inr ⟨fun m hm => ?_, rfl⟩, ?_⟩, Or.inl ⟨⟨0, 2⟩, ?_, ⟨Or.inl rfl, ?_⟩, rfl⟩, ?_⟩
  · rw [Marker.ofBytes_eq_ok.mpr hm] at hnone
    cases hnone
  · decide +kernel
  · exact Marker.ofBytes_eq_ok.mp hsome
  · decide
  · decide +kernel

end Routine

end LineSift.Command
