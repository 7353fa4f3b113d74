import LineSift.Proofs.Marker.Resume
import LineSift.Proofs.Scan.LogFile

/-!
# Each line once

A log path is watched for any time.  The file grows, another file takes its place, it is written
anew from its beginning, and now and then it is scanned from where the last scan left off, with a
receiver that may fail at any batch.  What has been accepted since the file began is always what
stands before the marker (`Sound`): this holds at first sight and after each step (`Sound.step`).
So a scan that succeeds completes the unknown lines of the file, each of them once
(`History.delivered_once`).
-/

namespace LineSift.Scan

open Encoding (EndsLine)

/-- The marker that is known after a file has been read on. -/
def FileOutcome.marker? {σ : Type} (o : FileOutcome σ) : Option Marker :=
  match o.result with
  | .ok m => some m
  | .error e => e.marker?

/-- A log path that is watched. -/
structure Watch where
  world : World
  /-- The marker of the last scan. -/
  last : Option Marker
  /-- The numbers of the files that have stood at the path. -/
  numbers : List Nat
  /-- Whether the file has been written anew since the last scan. -/
  rewritten : Bool
  /-- The batches that were accepted since the file took its place or was written anew. -/
  accepted : List (List Text)

namespace Watch

/-- A log path when it is seen first. -/
def first (w : World) (f : File) : Watch :=
  { world := w, last := none, numbers := [f.inode], rewritten := false, accepted := [] }

/-- A file can be scanned: its last line is finished, and if it has been written anew, it is shorter
than it was found to be. -/
structure Ready (path : Text) (v : Watch) (f : File) : Prop where
  found : v.world.fileAt? path = some f
  ends : EndsLine f.bytes
  shorter : v.rewritten = true → ∀ m, v.last = some m → f.size < m.offset

/-- A scan from where the last one left off. -/
def scan (rules : List RuleSet) (path : Text) (size : Int)
    (verdict : List (List Text) → List Text → Option Fault) (v : Watch) :
    FileOutcome (List (List Text)) × World :=
  logFile rules { batchSize := size } (collecting verdict) path v.last none v.accepted v.world

/-- What is known after a scan. -/
def scanned (v : Watch) (r : FileOutcome (List (List Text)) × World) : Watch :=
  { v with world := r.2, last := r.1.marker?, rewritten := false, accepted := r.1.state }

end Watch

/-- What happens to a log path. -/
inductive Step (rules : List RuleSet) (path : Text) : Watch → Watch → Prop
  /-- The file grows. -/
  | append {v : Watch} {f : File} {world : World} (more : Bytes) :
      v.world.fileAt? path = some f →
      world.fileAt? path = some ⟨f.inode, f.bytes ++ more⟩ →
      Step rules path v { v with world }
  /-- Another file takes the path, with a number that no file there has had. -/
  | rotate {v : Watch} {f : File} {world : World} :
      world.fileAt? path = some f → f.inode ≠ 0 → f.inode ∉ v.numbers →
      Step rules path v
        { v with world, numbers := f.inode :: v.numbers, rewritten := false, accepted := [] }
  /-- The file is written anew. -/
  | rewrite {v : Watch} {f : File} {world : World} (bytes : Bytes) :
      v.world.fileAt? path = some f → world.fileAt? path = some ⟨f.inode, bytes⟩ →
      Step rules path v { v with world, rewritten := true, accepted := [] }
  /-- The file is scanned. -/
  | scan {v : Watch} {f : File} {size : Int}
      (verdict : List (List Text) → List Text → Option Fault) :
      1 ≤ size → v.Ready path f →
      Step rules path v (v.scanned (v.scan rules path size verdict))

/-- All that can be seen of a log path in the course of time. -/
inductive History (rules : List RuleSet) (path : Text) : Watch → Prop
  | first {w : World} {f : File} : w.fileAt? path = some f → f.inode ≠ 0 →
      History rules path (.first w f)
  | step {v v' : Watch} : History rules path v → Step rules path v v' → History rules path v'

/-! ## What is always true of a watched path -/

/-- How far the file has been delivered: nothing of it if it is going to be read from its beginning,
and else all up to the marker. -/
inductive Standing (rules : List RuleSet) (f : File) (v : Watch) : Prop
  | untouched : v.accepted = [] →
      (v.rewritten = true ∨ v.last = none ∨ ∃ m, v.last = some m ∧ m.inode ≠ f.inode) →
      Standing rules f v
  | upTo (m : Marker) : v.rewritten = false → v.last = some m → m.inode = f.inode →
      m.offset ≤ f.size → EndsLine (f.bytes.take m.offset) →
      v.accepted.flatten = unknownIn rules (f.bytes.take m.offset) → Standing rules f v

/-- The invariant of a watched path. -/
structure Sound (rules : List RuleSet) (path : Text) (v : Watch) : Prop where
  standing : ∃ f, v.world.fileAt? path = some f ∧ f.inode ∈ v.numbers ∧ Standing rules f v
  numbers : 0 ∉ v.numbers
  last : ∀ m, v.last = some m → m.inode ∈ v.numbers

variable {rules : List RuleSet} {path : Text} {v : Watch}

theorem Sound.inode_ne (h : Sound rules path v) {n : Nat} (hn : n ∈ v.numbers) : n ≠ 0 :=
  fun e => h.numbers (e ▸ hn)

/-- A scan begins behind what has been delivered. -/
theorem Sound.resume (h : Sound rules path v) {f : File} (hr : v.Ready path f) :
    Marker.resume v.last f 0 ≤ f.size ∧
      EndsLine (f.bytes.take (Marker.resume v.last f 0)) ∧
      v.accepted.flatten = unknownIn rules (f.bytes.take (Marker.resume v.last f 0)) := by
  obtain ⟨g, hg, hmem, hst⟩ := h.standing
  obtain rfl : g = f := Option.some.inj (hg.symm.trans hr.found)
  have hzero (hz : Marker.resume v.last g 0 = 0) (hno : v.accepted = []) :
      Marker.resume v.last g 0 ≤ g.size ∧
        EndsLine (g.bytes.take (Marker.resume v.last g 0)) ∧
        v.accepted.flatten = unknownIn rules (g.bytes.take (Marker.resume v.last g 0)) := by
    rw [hz, hno]
    exact ⟨Nat.zero_le _, .nil, rfl⟩
  cases hst with
  | untouched hno hwhy =>
    cases hl : v.last with
    | none => exact hl ▸ hzero (by rw [hl]; rfl) hno
    | some m =>
      have hm : m.inode ≠ 0 := h.inode_ne (h.last m hl)
      rw [← hl]
      refine hzero ?_ hno
      rw [hl]
      rcases hwhy with hw | hw | ⟨m', hm', hne⟩
      · exact Marker.resume_shorter hm (hr.shorter hw m hl) 0
      · rw [hl] at hw
        cases hw
      · obtain rfl : m = m' := Option.some.inj (hl.symm.trans hm')
        exact Marker.resume_replaced hm (h.inode_ne hmem) hne 0
  | upTo m _ hl hi hle hends hacc =>
    obtain ⟨_, offset⟩ := m
    subst hi
    rw [hl, Marker.resume_own hle]
    exact ⟨hle, hends, hacc⟩

/-- A growing file has been delivered as far as before. -/
theorem Standing.append {f : File} (h : Standing rules f v) (world : World) (more : Bytes) :
    Standing rules ⟨f.inode, f.bytes ++ more⟩ { v with world } := by
  cases h with
  | untouched hno hwhy => exact .untouched hno hwhy
  | upTo m hw hl hi hle hends hacc =>
    have htake : (f.bytes ++ more).take m.offset = f.bytes.take m.offset :=
      List.take_append_of_le_length hle
    refine .upTo m hw hl hi ?_ (by rw [htake]; exact hends) (by rw [htake]; exact hacc)
    have hsize : (File.mk f.inode (f.bytes ++ more)).size = f.size + more.length :=
      List.length_append
    omega

/-- What a scan of a file can come to.  Either the receiver accepts all batches, and what has been
delivered is all that the file holds, which may have grown by messages; or it fails at a batch, and
what has been delivered is what stands before the marker, which is at the end of a line. -/
def Delivers (rules : List RuleSet) (path : Text) (f : File)
    (verdict : List (List Text) → List Text → Option Fault)
    (r : FileOutcome (List (List Text)) × World) : Prop :=
  ∃ g, r.2.fileAt? path = some g ∧ g.inode = f.inode ∧ f.bytes <+: g.bytes ∧
    ((r.1.result = .ok ⟨g.inode, g.size⟩ ∧ EndsLine g.bytes ∧
        r.1.state.flatten = unknownIn rules g.bytes) ∨
      (∃ fault batch pos, verdict r.1.state batch = some fault ∧
        r.1.result = .error (.stopped (.receiver fault) (some ⟨g.inode, pos⟩)) ∧
        pos ≤ g.size ∧ EndsLine (g.bytes.take pos) ∧
        r.1.state.flatten = unknownIn rules (g.bytes.take pos)))

theorem Sound.scan (h : Sound rules path v) {f : File} (hr : v.Ready path f) {size : Int}
    (hsize : 1 ≤ size) (verdict : List (List Text) → List Text → Option Fault) :
    Delivers rules path f verdict (v.scan rules path size verdict) := by
  obtain ⟨hle, hat, hacc⟩ := h.resume hr
  obtain ⟨more, hmore, hg⟩ := noted_fileAt? hr.found v.last
  have htake : (f.bytes ++ more).take (Marker.resume v.last f 0) =
      f.bytes.take (Marker.resume v.last f 0) := List.take_append_of_le_length hle
  rw [← htake] at hat hacc
  have hstart : Marker.resume v.last f 0 ≤ (File.mk f.inode (f.bytes ++ more)).size := by
    have hlen : (File.mk f.inode (f.bytes ++ more)).size = f.size + more.length :=
      List.length_append
    omega
  rw [Watch.scan, logFile_eq rules _ _ v.last hr.found hg]
  refine ⟨_, hg, rfl, List.prefix_append _ _, ?_⟩
  rcases content_cases rules hsize (collecting verdict) ⟨f.inode, f.bytes ++ more⟩ hstart
      (hr.ends.append hmore) hat v.accepted rfl with
    ⟨batches, ha, hall, hres⟩ |
    ⟨batches, batch, s', fault, pos, ha, hfail, hres, hpos, hposle, hends, hpart, _, _⟩
  · refine Or.inl ⟨hres, hr.ends.append hmore, ?_⟩
    dsimp only
    rw [accepts_collecting ha, List.flatten_append, hall, hacc]
    exact (unknownIn_take_drop rules hat).symm
  · obtain ⟨hs, hv⟩ := collecting_error hfail
    refine Or.inr ⟨fault, batch, pos, ?_, hres, hposle, hends, ?_⟩
    · dsimp only
      rw [hs]
      exact hv
    · dsimp only
      rw [hs, accepts_collecting ha, List.flatten_append, hpart, hacc]
      exact (unknownIn_take_mono rules hat hpos).symm

/-- The invariant holds when a path is seen first. -/
theorem Sound.first {w : World} {f : File} (hf : w.fileAt? path = some f) (hne : f.inode ≠ 0) :
    Sound rules path (.first w f) where
  standing := ⟨f, hf, List.mem_singleton.mpr rfl, .untouched rfl (Or.inr (Or.inl rfl))⟩
  numbers := fun hm => hne (List.mem_singleton.mp hm).symm
  last := fun m hm => by cases hm

/-- The invariant outlasts each step. -/
theorem Sound.step (h : Sound rules path v) {v' : Watch} (hstep : Step rules path v v') :
    Sound rules path v' := by
  cases hstep with
  | @append f world more hf hw =>
    obtain ⟨g, hg, hmem, hst⟩ := h.standing
    obtain rfl : g = f := Option.some.inj (hg.symm.trans hf)
    exact ⟨⟨_, hw, hmem, hst.append world more⟩, h.numbers, h.last⟩
  | @rotate f world hf hne hnew =>
    refine ⟨⟨f, hf, List.mem_cons_self, .untouched rfl ?_⟩, ?_,
      fun m hm => List.mem_cons_of_mem _ (h.last m hm)⟩
    · cases hl : v.last with
      | none => exact Or.inr (Or.inl rfl)
      | some m => exact Or.inr (Or.inr ⟨m, rfl, fun e => hnew (e ▸ h.last m hl)⟩)
    · exact fun hm => (List.mem_cons.mp hm).elim (fun e => hne e.symm) h.numbers
  | @rewrite f world bytes hf hw =>
    obtain ⟨g, hg, hmem, _⟩ := h.standing
    obtain rfl : g = f := Option.some.inj (hg.symm.trans hf)
    exact ⟨⟨_, hw, hmem, .untouched rfl (Or.inl rfl)⟩, h.numbers, h.last⟩
  | @scan f size verdict hsize hr =>
    obtain ⟨g, hg, hinode, _, hend⟩ := h.scan hr hsize verdict
    have hmem : g.inode ∈ v.numbers := by
      obtain ⟨g', hg', hmem, _⟩ := h.standing
      obtain rfl : g' = f := Option.some.inj (hg'.symm.trans hr.found)
      exact hinode ▸ hmem
    -- both ends of a scan leave a marker of this file behind what has been delivered
    obtain ⟨pos, hlast, hle, hends, hacc⟩ : ∃ pos,
        (v.scan rules path size verdict).1.marker? = some ⟨g.inode, pos⟩ ∧ pos ≤ g.size ∧
          EndsLine (g.bytes.take pos) ∧
          (v.scan rules path size verdict).1.state.flatten =
            unknownIn rules (g.bytes.take pos) := by
      rcases hend with ⟨hres, hends, hall⟩ | ⟨fault, batch, pos, _, hres, hle, hends, hpart⟩
      · have htake : g.bytes.take g.size = g.bytes := List.take_length
        refine ⟨g.size, ?_, Nat.le_refl _, by rw [htake]; exact hends, by rw [htake]; exact hall⟩
        rw [FileOutcome.marker?, hres]
      · refine ⟨pos, ?_, hle, hends, hpart⟩
        rw [FileOutcome.marker?, hres]
        rfl
    refine ⟨⟨g, hg, hmem, .upTo ⟨g.inode, pos⟩ rfl hlast rfl hle hends hacc⟩, h.numbers, ?_⟩
    intro m hm
    obtain rfl : m = ⟨g.inode, pos⟩ := Option.some.inj (hm.symm.trans hlast)
    exact hmem

/-- The invariant always holds. -/
theorem History.sound (h : History rules path v) : Sound rules path v := by
  induction h with
  | first hf hne => exact .first hf hne
  | step _ hstep ih => exact ih.step hstep

/-- **Each line is delivered once.**  Whatever has happened to a log path, a scan that succeeds ends
at the end of the file, and the batches that have been accepted since the file began, by this scan
and by earlier ones, are together the unknown lines of the file, in order.  A scan that does not
succeed ends with a refusal of the receiver, and those batches are the unknown lines before its
marker. -/
theorem History.delivered_once (h : History rules path v) {f : File} (hr : v.Ready path f)
    {size : Int} (hsize : 1 ≤ size) (verdict : List (List Text) → List Text → Option Fault) :
    Delivers rules path f verdict (v.scan rules path size verdict) :=
  h.sound.scan hr hsize verdict

/-- A receiver that breaks off behind its first batch. -/
def breakingOff (kept : List (List Text)) (_ : List Text) : Option Fault :=
  if kept = [] then none else some (.declared "broken")

/-- A log path with two lines when it is seen first. -/
def Watch.twoLines : Watch :=
  .first (.ofFile "log" ⟨7, Encoding.encode "a\nb\n"⟩) ⟨7, Encoding.encode "a\nb\n"⟩

/-- The same path after a scan that broke off, when the file has grown by a line. -/
def Watch.grown : Watch :=
  { Watch.twoLines.scanned (Watch.twoLines.scan [] "log" 1 breakingOff) with
    world := .ofFile "log" ⟨7, Encoding.encode "a\nb\nc\n"⟩ }

theorem History.delivered_once_grown :
    History [] "log" .grown ∧ Watch.grown.last = some ⟨7, 2⟩ ∧
      Watch.grown.Ready "log" ⟨7, Encoding.encode "a\nb\nc\n"⟩ ∧
      Delivers [] "log" ⟨7, Encoding.encode "a\nb\nc\n"⟩ (fun _ _ => none)
        (Watch.grown.scan [] "log" 2 fun _ _ => none) := by
  have hfirst : Watch.twoLines.Ready "log" ⟨7, Encoding.encode "a\nb\n"⟩ :=
    ⟨by decide, by decide, fun h => by cases h⟩
  have hfound : (Watch.twoLines.scan [] "log" 1 breakingOff).2.fileAt? "log" =
      some ⟨7, Encoding.encode "a\nb\n"⟩ := by decide
  have hscan : Step [] "log" .twoLines
      (Watch.twoLines.scanned (Watch.twoLines.scan [] "log" 1 breakingOff)) :=
    .scan breakingOff (Int.le_refl 1) hfirst
  have hgrow : Step [] "log"
      (Watch.twoLines.scanned (Watch.twoLines.scan [] "log" 1 breakingOff)) .grown :=
    .append (Encoding.encode "c\n") hfound (by decide)
  have hstart : History [] "log" .twoLines := .first (by decide) (by decide)
  have h : History [] "log" .grown := (hstart.step hscan).step hgrow
  have hr : Watch.grown.Ready "log" ⟨7, Encoding.encode "a\nb\nc\n"⟩ :=
    ⟨by decide, by decide, fun h => by cases h⟩
  exact ⟨h, by decide, hr, h.delivered_once hr (by decide) _⟩

end LineSift.Scan
