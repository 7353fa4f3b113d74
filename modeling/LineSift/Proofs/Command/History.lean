import LineSift.Proofs.Command.Routine

/-!
# No line is lost

A log file grows, and the main command is run on it again and again, read by somebody who may stop
reading at any line.  What stands before the saved marker has always been printed, and what has been
printed more than once is less than a batch for each run that was not read to its end (`Accounted`).
This holds at first and after each step, so it holds at any time (`History.printed_at_least_once`).
-/

namespace LineSift.Command.Routine

open Encoding (EndsLine)

variable (k : Routine)

/-- What can happen in the course of time, with the runs so far: the log file grows, and the command
is run.  At first no marker is saved that can be used. -/
inductive History : List Run → Store → Prop
  | first {s : FileTree} {id : Nat} : s.fileAt k.path = .ok id →
      Json.IsShort (s.file id).inode → lastMarker k.stateDir k.path s = {} →
      History [] s
  | append {runs : List Run} {s : Store} {id : Nat} (more : Bytes) : History runs s →
      s.fileAt k.path = .ok id → History runs (s.appendBytes id more)
  | run {runs : List Run} {s : Store} {clock : Text} {limit : Option Nat} : History runs s →
      k.Ready clock limit s →
      History (runs ++ [k.run clock limit s]) (k.run clock limit s).after

/-- Whether a run was not read to its end. -/
def isPart (r : Run) : Bool := k.last r < (k.unknown r.before).length

/-- The number of lines that were printed. -/
def count : List Run → Nat
  | [] => 0
  | r :: runs => (k.last r - k.first r) + count runs

/-- What is always true of the runs and the store. -/
structure Accounted (runs : List Run) (s : Store) : Prop where
  stands : k.Stands s
  served : ∀ r ∈ runs, k.Served r
  grown : ∀ r ∈ runs, EndsLine (k.log r.before).bytes ∧
    (k.log r.before).bytes <+: (k.log s).bytes
  covered : ∀ i < k.passed s, ∃ r ∈ runs, k.first r ≤ i ∧ i < k.last r
  repeated : k.count runs ≤ k.passed s + (k.size - 1) * runs.countP k.isPart

variable {k} {runs : List Run} {s : Store}

/-- The unknown lines of a file that ends with a whole line stay the first ones when it grows. -/
theorem unknown_prefix {s' : Store} (hends : EndsLine (k.log s).bytes)
    (h : (k.log s).bytes <+: (k.log s').bytes) : k.unknown s <+: k.unknown s' := by
  obtain ⟨more, hmore⟩ := h
  refine ⟨Scan.unknownIn k.rules more, ?_⟩
  rw [unknown, unknown, ← hmore, Scan.unknownIn_append k.rules hends]

theorem count_concat (runs : List Run) (r : Run) :
    k.count (runs ++ [r]) = k.count runs + (k.last r - k.first r) := by
  induction runs with
  | nil => rw [List.nil_append, count, count, Nat.add_comm]; rfl
  | cons r' runs ih => rw [List.cons_append, count, count, ih, Nat.add_assoc]

theorem last_le (r : Run) : k.last r ≤ (k.unknown r.before).length := by
  unfold last
  split
  · exact Nat.le_refl _
  · exact Nat.min_le_right _ _

/-- What a run has passed, it has printed; what it has printed and not passed is less than a batch,
and nothing if it was read to its end. -/
theorem Served.passed_cases {r : Run} (h : k.Served r) :
    k.isPart r = false ∧ k.passed r.after = k.last r ∨
      k.isPart r = true ∧ k.passed r.after ≤ k.last r ∧ k.last r < k.passed r.after + k.size := by
  unfold isPart
  rcases Nat.lt_or_eq_of_le (k.last_le r) with hlt | heq
  · obtain ⟨_, _, -, -, -, -, -, hle, hrepeat⟩ := h.part hlt
    exact Or.inr ⟨decide_eq_true hlt, hle, hrepeat⟩
  · exact Or.inl ⟨decide_eq_false (Nat.not_lt.mpr heq.ge), (h.whole heq).2.1⟩

namespace Accounted

theorem first {s : FileTree} {id : Nat} (hf : s.fileAt k.path = .ok id)
    (hinode : Json.IsShort (s.file id).inode)
    (hlast : lastMarker k.stateDir k.path s = {}) : k.Accounted [] s where
  stands := by
    have hoffset : k.offset s = 0 := by
      rw [offset, hlast]
    refine ⟨s.tree, ⟨id, hf⟩, ?_, Or.inl hlast, ?_, ?_⟩
    · rw [log_eq hf]
      exact hinode
    · rw [hoffset]
      exact Nat.zero_le _
    · rw [hoffset]
      exact .nil
  served := by simp
  grown := by simp
  covered := by
    intro i hi
    rw [passed, offset, hlast] at hi
    exact absurd hi (Nat.not_lt_zero i)
  repeated := Nat.zero_le _

theorem append (h : k.Accounted runs s) {id : Nat} (hf : s.fileAt k.path = .ok id) (more : Bytes) :
    k.Accounted runs (s.appendBytes id more) := by
  have hpassed : k.passed (s.appendBytes id more) = k.passed s := by
    rw [passed, h.stands.take_append hf, passed]
  refine ⟨h.stands.append hf more, h.served, ?_, ?_, ?_⟩
  · intro r hr
    obtain ⟨hends, hprefix⟩ := h.grown r hr
    refine ⟨hends, hprefix.trans ?_⟩
    rw [log_appendBytes h.stands.tree hf]
    exact List.prefix_append _ _
  · rw [hpassed]
    exact h.covered
  · rw [hpassed]
    exact h.repeated

theorem run (h : k.Accounted runs s) {clock : Text} {limit : Option Nat}
    (hr : k.Ready clock limit s) :
    k.Accounted (runs ++ [k.run clock limit s]) (k.run clock limit s).after := by
  obtain ⟨hstands, hserved⟩ := h.stands.run hr
  have hends : EndsLine (k.log (k.run clock limit s).before).bytes := hr.ends
  have hfirst : k.first (k.run clock limit s) = k.passed s := rfl
  have hlog : k.log (k.run clock limit s).after = k.log s := hserved.log
  have hprefix : (k.log (k.run clock limit s).before).bytes <+: (k.log s).bytes := List.prefix_rfl
  generalize k.run clock limit s = r at *
  have hle := hserved.first_le
  refine ⟨hstands, ?_, ?_, ?_, ?_⟩
  · intro r' hr'
    rcases List.mem_append.mp hr' with hr' | hr'
    · exact h.served r' hr'
    · rw [List.mem_singleton.mp hr']
      exact hserved
  · intro r' hr'
    rw [hlog]
    rcases List.mem_append.mp hr' with hr' | hr'
    · exact h.grown r' hr'
    · rw [List.mem_singleton.mp hr']
      exact ⟨hends, hprefix⟩
  · intro i hi
    by_cases hold : i < k.passed s
    · obtain ⟨r', hr', hblock⟩ := h.covered i hold
      exact ⟨r', List.mem_append_left _ hr', hblock⟩
    · refine ⟨r, List.mem_append_right _ List.mem_cons_self, by omega, ?_⟩
      rcases hserved.passed_cases with ⟨-, hpassed⟩ | ⟨-, hpassed, -⟩ <;> omega
  · have hrepeated := h.repeated
    rw [count_concat, List.countP_append, List.countP_singleton, Nat.mul_add]
    rcases hserved.passed_cases with ⟨hpart, hpassed⟩ | ⟨hpart, hpassed, hrepeat⟩
    · rw [hpart]
      simp only [Bool.false_eq_true, if_false, Nat.mul_zero]
      omega
    · rw [hpart]
      simp only [if_true, Nat.mul_one]
      omega

end Accounted

theorem History.accounted (h : k.History runs s) : k.Accounted runs s := by
  induction h with
  | first hf hinode hlast => exact .first hf hinode hlast
  | append more _ hf ih => exact ih.append hf more
  | run _ hr ih => exact ih.run hr

/-- **No line is lost**, and few lines are printed again.  At any time, each run so far has printed
a block of what are the unknown lines by now, from the saved marker on; each line in front of the
saved marker stands in one of the blocks; and the blocks are together longer than what stands there
by less than a batch for each run that was not read to its end. -/
theorem History.printed_at_least_once (h : k.History runs s) :
    (∀ r ∈ runs, k.Served r ∧ k.unknown r.before <+: k.unknown s) ∧
      (∀ i < k.passed s, ∃ r ∈ runs, k.first r ≤ i ∧ i < k.last r) ∧
      k.count runs ≤ k.passed s + (k.size - 1) * runs.countP k.isPart := by
  have hacc := h.accounted
  refine ⟨?_, hacc.covered, hacc.repeated⟩
  intro r hr
  obtain ⟨hends, hprefix⟩ := hacc.grown r hr
  exact ⟨hacc.served r hr, unknown_prefix hends hprefix⟩

/-! ## A run that is not read to its end, and the next one -/

/-- All that a run needs can be computed. -/
theorem Ready.of_computed {clock : Text} {limit : Option Nat} (least : Level)
    (h : ((prepare k.environment (.ofGiven k.given k.operands) (terminal clock limit s)).1 =
          .ok ⟨k.rules, { batchSize := k.size }, some k.stateDir, [k.path]⟩ ∧
        (prepare k.environment (.ofGiven k.given k.operands)
          (terminal clock limit s)).2.world.target = some (.errorOutput, least)) ∧
      (Store.replaceFile k.stateDir (Marker.statePath s.workingPath k.stateDir k.path) [] s).1 =
        .ok () ∧
      EndsLine (k.log s).bytes ∧ Json.IsShort (k.log s).size) : k.Ready clock limit s := by
  obtain ⟨⟨hprepared, htarget⟩, hwritable, hends, hsize⟩ := h
  refine ⟨⟨_, Prod.ext hprepared rfl, ?_⟩, ?_, hends, hsize⟩
  · intro id level he
    rw [htarget] at he
    cases he
  · exact fun m => Store.replaceFile_of_refilled (.refl s) (Prod.ext hwritable rfl) m.toBytes

/-- A log file that is read without any rules. -/
def plain : Routine where
  environment := none
  program := "logsieve process"
  arguments := ["-r", "rules", "-s", "state", "log"]
  given := [(.rules, some "rules"), (.stateDir, some "state")]
  operands := ["log"]
  parsed := by rfl
  unhelped := by rfl
  loads := by rfl
  saves := by rfl
  rules := []
  size := 20
  size_pos := by decide
  stateDir := "state"
  path := "log"

/-- A log file of two lines beside the directories of rules and of saved markers. -/
def plainStore : FileTree where
  nodes := [(["log"], .file 0), (["rules"], .directory), (["state"], .directory)]
  files := [⟨7, [0x61, 0x0A, 0x62, 0x0A]⟩]
  tree := by apply Store.Tree.of_nodes <;> decide

/-- A run of which one line is read. -/
def plainFirst : Run := plain.run [] (some 1) plainStore

/-- The store when the log file has got a third line. -/
def plainGrown : Store := plainFirst.after.appendBytes 0 [0x63, 0x0A]

/-- A run that is read to its end. -/
def plainSecond : Run := plain.run [] none plainGrown

/-- One line was printed, then all three of them: the first one twice. -/
theorem History.printed_at_least_once_plain :
    plain.History [plainFirst, plainSecond] plainSecond.after ∧
      plain.isPart plainFirst = true ∧ plain.passed plainSecond.after = 3 ∧
      plain.count [plainFirst, plainSecond] = 4 ∧
      (∀ i < 3, ∃ r ∈ [plainFirst, plainSecond], plain.first r ≤ i ∧ i < plain.last r) := by
  have hfirst : plain.Ready [] (some 1) plainStore :=
    .of_computed .warning (by decide +kernel)
  have hsecond : plain.Ready [] none plainGrown :=
    .of_computed .warning (by decide +kernel)
  have hhistory : plain.History [plainFirst, plainSecond] plainSecond.after := by
    have hlog : plainStore.fileAt plain.path = .ok 0 := by decide +kernel
    have h₀ : plain.History [] plainStore :=
      .first hlog (by decide +kernel) (by decide +kernel)
    have h₁ : plain.History [plainFirst] plainFirst.after := h₀.run hfirst
    have h₂ : plain.History [plainFirst] plainGrown := h₁.append _ (by decide +kernel)
    exact h₂.run hsecond
  have hpassed : plain.passed plainSecond.after = 3 := by decide +kernel
  obtain ⟨-, hcovered, -⟩ := hhistory.printed_at_least_once
  refine ⟨hhistory, by decide +kernel, hpassed, by decide +kernel, ?_⟩
  rw [← hpassed]
  exact hcovered

end LineSift.Command.Routine
