import LineSift.Proofs.Command.Process
import LineSift.Proofs.Marker.Resume

/-!
# Running the main command again and again

A log file grows, and now and then the main command is run on it, with the same arguments and the
same rules.  Whoever reads what a run prints may stop reading after any number of lines.  The saved
marker then always stands at the end of a line (`Stands`), and this stays so when the file grows
(`Stands.append`) and when the command is run (`Stands.run`).  A run prints the unknown lines from
there on, as far as they are read, and moves the marker on to the end of the file, or else to the
end of a line less than a batch before the first line that is not read (`Served`).
-/

namespace LineSift.Command

open Encoding (EndsLine)
open Scan (unknownIn)
open Text (ofString)

/-- The main command with arguments that do not turn off the saved markers, and what it finds in its
configuration: rules, the size of batches, the directory of the saved markers, and one log file. -/
structure Routine where
  environment : Option Text
  program : Text
  arguments : List Text
  given : List (Given Key)
  operands : List Text
  parsed : Name.process.form.parse arguments = (given, .ok operands)
  unhelped : given.any (·.1 = .help) = false
  loads : (Options.ofGiven given operands).ignoreState = false
  saves : (Options.ofGiven given operands).keepState = false
  rules : List RuleSet
  size : Nat
  size_pos : 1 ≤ size
  stateDir : Text
  path : Text

/-- What can be told of a run: the store before and after it, how many lines were read, how it
ended, and what it printed. -/
structure Run where
  before : Store
  limit : Option Nat
  exit : Exit
  printed : Text
  after : Store

namespace Routine

variable (k : Routine)

/-- The log file. -/
def log (s : Store) : File := (({ store := s } : World).fileAt? k.path).getD ⟨0, []⟩

/-- The unknown lines of the log file. -/
def unknown (s : Store) : List Text := unknownIn k.rules (k.log s).bytes

/-- How far the log file has been read, by the saved marker. -/
def offset (s : Store) : Nat := (lastMarker k.stateDir k.path s).offset

/-- The number of unknown lines before the saved marker. -/
def passed (s : Store) : Nat := (unknownIn k.rules ((k.log s).bytes.take (k.offset s))).length

/-- A terminal in front of which a run begins. -/
def terminal (clock : Text) (limit : Option Nat) (s : Store) : Terminal :=
  { world := { store := s, clock }, printer := { limit } }

/-- Runs the command. -/
def run (clock : Text) (limit : Option Nat) (s : Store) : Run :=
  let r := runCommand k.environment k.program .process k.arguments (terminal clock limit s)
  { before := s, limit, exit := r.1, printed := r.2.printer.output, after := r.2.world.store }

/-- The number of the unknown line with which a run begins. -/
def first (r : Run) : Nat := k.passed r.before

/-- The number of the unknown line in front of which a run stops printing. -/
def last (r : Run) : Nat :=
  match r.limit with
  | none => (k.unknown r.before).length
  | some n => min (k.first r + n) (k.unknown r.before).length

/-- The command can be run: the rules load, messages go to the error output, the directory of the
saved markers can be written to, and the last line of the log file is finished. -/
structure Ready (clock : Text) (limit : Option Nat) (s : Store) : Prop where
  prepared : ∃ t, prepare k.environment (.ofGiven k.given k.operands) (terminal clock limit s) =
      (.ok ⟨k.rules, { batchSize := k.size }, some k.stateDir, [k.path]⟩, t) ∧ t.world.IsQuiet
  writable : ∀ m, ∃ s', Saves k.stateDir k.path m s s'
  ends : EndsLine (k.log s).bytes
  /-- The size of the file does not have more digits than can be read back. -/
  size : Json.IsShort (k.log s).size

/-- A run has printed a block of the unknown lines, from the saved marker on.  If it has printed all
of them, the marker is saved at the end of the file; and else at the end of a line, so that less
than a batch is going to be printed again. -/
structure Served (r : Run) : Prop where
  first_le : k.first r ≤ k.last r
  log : k.log r.after = k.log r.before
  lines : r.printed = Printer.asLines (((k.unknown r.before).take (k.last r)).drop (k.first r))
  whole : k.last r = (k.unknown r.before).length →
    r.exit = .returned ∧ k.passed r.after = k.last r ∧
      Marker.saved k.stateDir k.path r.after = .ok ⟨(k.log r.before).inode, (k.log r.before).size⟩
  part : k.last r < (k.unknown r.before).length →
    ∃ message pos, r.exit = .told (ofString "error: " ++ message) ∧
      Marker.saved k.stateDir k.path r.after = .ok ⟨(k.log r.before).inode, pos⟩ ∧
      pos ≤ (k.log r.before).size ∧ EndsLine ((k.log r.before).bytes.take pos) ∧
      k.first r ≤ k.passed r.after ∧ k.passed r.after ≤ k.last r ∧
      k.last r < k.passed r.after + k.size

/-- The saved marker stands at the end of a line. -/
structure Stands (s : Store) : Prop where
  tree : s.Tree
  found : ∃ id, s.fileAt k.path = .ok id
  inode : Json.IsShort (k.log s).inode
  marker : lastMarker k.stateDir k.path s = {} ∨
    (lastMarker k.stateDir k.path s).inode = (k.log s).inode
  offset_le : k.offset s ≤ (k.log s).size
  ends : EndsLine ((k.log s).bytes.take (k.offset s))

variable {k} {s : Store} {clock : Text} {limit : Option Nat}

theorem log_eq {id : Nat} (h : s.fileAt k.path = .ok id) : k.log s = s.file id := by
  unfold log World.fileAt?
  rw [h]
  rfl

theorem fileAt?_log {w : World} {id : Nat} (h : w.store.fileAt k.path = .ok id) :
    w.fileAt? k.path = some (k.log w.store) := by
  rw [log_eq h, World.fileAt?, h]

/-! ## The log file grows -/

theorem lastMarker_appendBytes (hs : s.Tree) {id : Nat} (hf : s.fileAt k.path = .ok id)
    (more : Bytes) :
    lastMarker k.stateDir k.path (s.appendBytes id more) = lastMarker k.stateDir k.path s := by
  rw [lastMarker, lastMarker, Marker.saved_appendBytes hs hf]

theorem log_appendBytes (hs : s.Tree) {id : Nat} (hf : s.fileAt k.path = .ok id) (more : Bytes) :
    k.log (s.appendBytes id more) = ⟨(k.log s).inode, (k.log s).bytes ++ more⟩ := by
  obtain ⟨p, -, hnode⟩ := Store.fileAt_eq_ok.mp hf
  have hf' : (s.appendBytes id more).fileAt k.path = .ok id := by
    rw [Store.fileAt_appendBytes, hf]
  rw [log_eq hf', log_eq hf, Store.file_appendBytes, if_pos ⟨rfl, hs.stored hnode⟩]

namespace Stands

/-- The lines before the marker do not change when the file grows. -/
theorem take_append (h : k.Stands s) {id : Nat} (hf : s.fileAt k.path = .ok id) (more : Bytes) :
    (k.log (s.appendBytes id more)).bytes.take (k.offset (s.appendBytes id more)) =
      (k.log s).bytes.take (k.offset s) := by
  rw [log_appendBytes h.tree hf, offset, lastMarker_appendBytes h.tree hf]
  exact List.take_append_of_le_length h.offset_le

theorem append (h : k.Stands s) {id : Nat} (hf : s.fileAt k.path = .ok id) (more : Bytes) :
    k.Stands (s.appendBytes id more) where
  tree := h.tree.modify_file id _
  found := ⟨id, by rw [Store.fileAt_appendBytes, hf]⟩
  inode := by
    rw [log_appendBytes h.tree hf]
    exact h.inode
  marker := by
    rw [lastMarker_appendBytes h.tree hf, log_appendBytes h.tree hf]
    exact h.marker
  offset_le := by
    rw [log_appendBytes h.tree hf, offset, lastMarker_appendBytes h.tree hf]
    have := h.offset_le
    unfold File.size at this ⊢
    rw [List.length_append]
    exact Nat.le_trans this (Nat.le_add_right _ _)
  ends := by
    rw [h.take_append hf]
    exact h.ends

/-- What stands before the marker begins the unknown lines. -/
theorem unknown_eq (h : k.Stands s) :
    k.unknown s = unknownIn k.rules ((k.log s).bytes.take (k.offset s)) ++
      unknownIn k.rules ((k.log s).bytes.drop (k.offset s)) :=
  Scan.unknownIn_take_drop k.rules h.ends

theorem passed_le (h : k.Stands s) : k.passed s ≤ (k.unknown s).length := by
  rw [h.unknown_eq, List.length_append]
  exact Nat.le_add_right _ _

/-- Reading on begins at the marker. -/
theorem resume (h : k.Stands s) :
    Marker.resume (some (lastMarker k.stateDir k.path s)) (k.log s) 0 = k.offset s := by
  rcases h.marker with hnone | hinode
  · rw [offset, hnone]
    rfl
  · have hle := h.offset_le
    unfold offset at hle ⊢
    generalize lastMarker k.stateDir k.path s = m at hinode hle ⊢
    obtain ⟨inode, offset⟩ := m
    obtain rfl : inode = (k.log s).inode := hinode
    exact Marker.resume_own hle

/-! ## The command is run -/

/-- When a marker at the end of a line has been saved, it stands there. -/
theorem saved (h : k.Stands s) {m : Marker} {s' : Store} (hm : m.IsReadable)
    (hinode : m.inode = (k.log s).inode) (hle : m.offset ≤ (k.log s).size)
    (hends : EndsLine ((k.log s).bytes.take m.offset)) (hs : Saves k.stateDir k.path m s s') :
    k.Stands s' ∧ k.log s' = k.log s ∧ Marker.saved k.stateDir k.path s' = .ok m ∧
      k.offset s' = m.offset := by
  obtain ⟨id, hf⟩ := h.found
  obtain ⟨hf', hfile⟩ := Marker.file_of_save h.tree hf hs
  obtain ⟨above, -, hreplaced⟩ := Marker.replaced_of_save h.tree hs
  have hlog : k.log s' = k.log s := by
    rw [log_eq hf', log_eq hf, hfile]
  have hsaved := Marker.saved_of_save h.tree hm hs
  have hlast : lastMarker k.stateDir k.path s' = m := by
    rw [lastMarker, hsaved]
  have hoffset : k.offset s' = m.offset := by
    rw [offset, hlast]
  refine ⟨⟨hreplaced.tree, ⟨id, hf'⟩, ?_, Or.inr ?_, ?_, ?_⟩, hlog, hsaved, hoffset⟩
  · rw [hlog]
    exact h.inode
  · rw [hlast, hlog, hinode]
  · rw [hoffset, hlog]
    exact hle
  · rw [hoffset, hlog]
    exact hends

end Stands

/-- A run that is prepared ends as processing the log file does. -/
theorem runCommand_prepared {t t' : Terminal} {result : Except Failure Unit}
    (h : prepare k.environment (.ofGiven k.given k.operands) (terminal clock limit s) =
      (.ok ⟨k.rules, { batchSize := k.size }, some k.stateDir, [k.path]⟩, t))
    (hfile : processFile k.rules { batchSize := k.size } (.ofGiven k.given k.operands)
      (some k.stateDir) k.path t = (result, t')) :
    runCommand k.environment k.program .process k.arguments (terminal clock limit s) =
      (.ofResult result, stopWriting t') := by
  rw [runCommand_process k.parsed k.unhelped, runProcess_eq h]
  dsimp only
  rw [processAll_one, hfile]

theorem run_eq {exit : Exit} {t : Terminal}
    (h : runCommand k.environment k.program .process k.arguments (terminal clock limit s) =
      (exit, t)) :
    k.run clock limit s = ⟨s, limit, exit, t.printer.output, t.world.store⟩ := by
  rw [Routine.run, h]

/-- **A run** prints the unknown lines and saves the marker, also if printing fails. -/
theorem Stands.run_cases (h : k.Stands s) (hr : k.Ready clock limit s) :
    (∃ t, runCommand k.environment k.program .process k.arguments (terminal clock limit s) =
        (.returned, t) ∧
      Saves k.stateDir k.path ⟨(k.log s).inode, (k.log s).size⟩ s t.world.store ∧
      PrintsAll k.rules (k.log s) (k.offset s) limit t.printer) ∨
    (∃ t message pos,
      runCommand k.environment k.program .process k.arguments (terminal clock limit s) =
        (.told (ofString "error: " ++ message), t) ∧
      Saves k.stateDir k.path ⟨(k.log s).inode, pos⟩ s t.world.store ∧
      PrintsPart k.rules k.size (k.log s) (k.offset s) pos limit t.printer) := by
  obtain ⟨id, hf⟩ := h.found
  obtain ⟨t, hprepare, hquiet⟩ := hr.prepared
  have hfirst : (terminal clock limit s).world.IsQuiet := .of_none rfl
  obtain ⟨hstore, hprinter⟩ := prepare_ok hfirst hprepare hquiet
  have hstore : t.world.store = s := hstore
  have hprinter : t.printer = { limit } := hprinter
  have hlog : t.world.fileAt? k.path = some (k.log s) := by
    rw [← hstore] at hf ⊢
    exact fileAt?_log hf
  have hsize : (1 : Int) ≤ k.size := Int.ofNat_le.mpr k.size_pos
  have hshows : t.printer.Shows [] := by
    rw [hprinter]
    exact Printer.shows_nil limit
  have hprocess := processFile_cases k.rules hsize k.loads k.saves hquiet hshows
    (by rw [hstore]; exact hr.writable) hlog hr.ends (by rw [hstore]; exact h.resume)
    h.offset_le h.ends
  rw [hstore, hprinter] at hprocess
  rcases hprocess with ⟨t', hfile, hsaves, hall⟩ | ⟨t', fault, pos, hfile, hsaves, hpart⟩
  · exact Or.inl ⟨stopWriting t', runCommand_prepared hprepare hfile, hsaves, hall⟩
  · exact Or.inr ⟨stopWriting t', _, pos, runCommand_prepared hprepare hfile, hsaves, hpart⟩

/-- The block between the marker and the line in front of which a run stops. -/
theorem block_eq {r : Run} {before done rest : List Text}
    (hunknown : k.unknown r.before = before ++ done ++ rest) (hfirst : k.first r = before.length)
    (hlimit : rest = [] ∧ (∀ n, r.limit = some n → done.length ≤ n) ∨
      r.limit = some done.length) :
    k.last r = (before ++ done).length ∧
      ((k.unknown r.before).take (k.last r)).drop (k.first r) = done := by
  have hlast : k.last r = (before ++ done).length := by
    unfold last
    rw [hunknown, hfirst, List.length_append, List.length_append]
    cases hn : r.limit with
    | none =>
      rcases hlimit with ⟨rfl, -⟩ | hfull
      · rfl
      · rw [hn] at hfull
        cases hfull
    | some n =>
      dsimp only
      rcases hlimit with ⟨rfl, hroom⟩ | hfull
      · have := hroom n hn
        rw [List.length_nil]
        omega
      · rw [hn] at hfull
        obtain rfl := Option.some.inj hfull
        omega
  refine ⟨hlast, ?_⟩
  rw [hlast, hfirst, hunknown, List.take_left, List.drop_left]

section Served

variable {r : Run} {p : Printer}

theorem Stands.served_all (h : k.Stands r.before) (hends : EndsLine (k.log r.before).bytes)
    (hsize : Json.IsShort (k.log r.before).size) (hexit : r.exit = .returned)
    (hsaves : Saves k.stateDir k.path ⟨(k.log r.before).inode, (k.log r.before).size⟩
      r.before r.after)
    (hprinted : r.printed = p.output)
    (hall : PrintsAll k.rules (k.log r.before) (k.offset r.before) r.limit p) :
    k.Stands r.after ∧ k.Served r := by
  have htake : (k.log r.before).bytes.take (k.log r.before).size = (k.log r.before).bytes := by
    rw [File.size, List.take_length]
  obtain ⟨hstands, hlog, hsaved, hoffset⟩ :=
    h.saved ⟨h.inode, hsize⟩ rfl (Nat.le_refl _) (by rw [htake]; exact hends) hsaves
  have hunknown := h.unknown_eq
  have hnone : k.unknown r.before =
      unknownIn k.rules ((k.log r.before).bytes.take (k.offset r.before)) ++
        unknownIn k.rules ((k.log r.before).bytes.drop (k.offset r.before)) ++ [] := by
    rw [hunknown, List.append_nil]
  obtain ⟨hlast, hblock⟩ := block_eq hnone rfl
    (Or.inl ⟨rfl, fun n hn => hall.shows.room n (hall.limit.trans hn)⟩)
  rw [← hunknown] at hlast
  have hpassed : k.passed r.after = (k.unknown r.before).length := by
    rw [passed, hoffset, hlog, htake, unknown]
  refine ⟨hstands, ⟨?_, hlog, ?_, ?_, ?_⟩⟩
  · rw [hlast]
    exact h.passed_le
  · rw [hblock, ← hall.shows.output, hprinted]
  · intro _
    exact ⟨hexit, hpassed.trans hlast.symm, hsaved⟩
  · intro hlt
    rw [hlast] at hlt
    exact absurd hlt (Nat.lt_irrefl _)

theorem Stands.served_part (h : k.Stands r.before)
    (hsize : Json.IsShort (k.log r.before).size) {message : Text} {pos : Nat}
    (hexit : r.exit = .told (ofString "error: " ++ message))
    (hsaves : Saves k.stateDir k.path ⟨(k.log r.before).inode, pos⟩ r.before r.after)
    (hprinted : r.printed = p.output)
    (hpart : PrintsPart k.rules k.size (k.log r.before) (k.offset r.before) pos r.limit p) :
    k.Stands r.after ∧ k.Served r := by
  obtain ⟨done, l, rest, hnext, hlen, hshows, hfull⟩ := hpart.shows
  have hpos : Json.IsShort pos := hsize.mono hpart.le_size
  obtain ⟨hstands, hlog, hsaved, hoffset⟩ :=
    h.saved ⟨h.inode, hpos⟩ rfl hpart.le_size hpart.ends hsaves
  -- the lines before the old marker, between the two markers, and behind the new one
  have hbetween : unknownIn k.rules ((k.log r.before).bytes.take pos) =
      unknownIn k.rules ((k.log r.before).bytes.take (k.offset r.before)) ++
        unknownIn k.rules (((k.log r.before).bytes.take pos).drop (k.offset r.before)) :=
    Scan.unknownIn_take_mono k.rules h.ends hpart.start_le
  have hunknown : k.unknown r.before =
      unknownIn k.rules ((k.log r.before).bytes.take (k.offset r.before)) ++
        (unknownIn k.rules (((k.log r.before).bytes.take pos).drop (k.offset r.before)) ++ done) ++
          (l :: rest) := by
    rw [unknown, Scan.unknownIn_take_drop k.rules hpart.ends, hbetween, hnext]
    simp only [List.append_assoc]
  obtain ⟨hlast, hblock⟩ := block_eq hunknown rfl (Or.inr hfull)
  have hfirst : k.first r =
      (unknownIn k.rules ((k.log r.before).bytes.take (k.offset r.before))).length := rfl
  have hpassed : k.passed r.after =
      (unknownIn k.rules ((k.log r.before).bytes.take (k.offset r.before)) ++
        unknownIn k.rules (((k.log r.before).bytes.take pos).drop (k.offset r.before))).length := by
    rw [passed, hoffset, hlog, hbetween]
  have hlength := congrArg List.length hunknown
  simp only [List.length_append, List.length_cons] at hlast hpassed hlength
  refine ⟨hstands, ⟨by omega, hlog, ?_, ?_, ?_⟩⟩
  · rw [hblock, ← hshows.output, hprinted]
  · intro hall
    omega
  · intro _
    exact ⟨message, pos, hexit, hsaved, hpart.le_size, hpart.ends, by omega, by omega, by omega⟩

end Served

/-- **What a run does** when the marker stands at the end of a line: it prints a block of the
unknown lines, and the marker stands at the end of a line again. -/
theorem Stands.run (h : k.Stands s) (hr : k.Ready clock limit s) :
    k.Stands (k.run clock limit s).after ∧ k.Served (k.run clock limit s) := by
  rcases h.run_cases hr with ⟨t, ht, hsaves, hall⟩ | ⟨t, message, pos, ht, hsaves, hpart⟩
  · rw [run_eq ht]
    exact served_all h hr.ends hr.size rfl hsaves rfl hall
  · rw [run_eq ht]
    exact served_part h hr.size rfl hsaves rfl hpart

end Routine

end LineSift.Command
