import LineSift.Proofs.Alike
import LineSift.Proofs.Command.Process
import LineSift.Proofs.Marker.Apart

/-!
# Processing after something has been printed

A terminal can have printed more than another one and be like it otherwise (`Terminal.Alike`).
While nobody stops reading, this makes no difference for what is done: processing a log file comes
to the same on both, and leaves them alike (`mirrors_processFile`).
-/

namespace LineSift

/-! ## Receivers -/

namespace Scan

variable {σ : Type} {R : σ → σ → Prop}

/-- Two outcomes that differ in the state of the receiver at most. -/
structure Outcome.Alike (R : σ → σ → Prop) (o o' : Outcome σ) : Prop where
  state : R o.state o'.state
  taken : o'.taken = o.taken
  received : o'.received = o.received
  failure : o'.failure = o.failure

/-- What a log file comes to does not depend on the state of the receiver. -/
theorem Outcome.Alike.conclude {o o' : Outcome σ} (h : o.Alike R o') (inode : Nat) :
    Scan.conclude inode o' = Scan.conclude inode o := by
  rw [Scan.conclude, Scan.conclude, h.failure, h.taken, h.received]

section Receiver

variable {receive : Receiver σ}

/-- Handing out batches, by induction on them: as long as the receiver accepts both, they
stay alike. -/
theorem feed_alike (hreceive : ∀ batch, Effect.Mirrors R True (receive batch) (receive batch))
    (ending : Ending) (bs : List Batch) (received : Nat) {s s' : σ} (h : R s s') :
    (feed receive ending bs received s).Alike R (feed receive ending bs received s') := by
  induction bs generalizing received s s' with
  | nil => exact ⟨h, rfl, rfl, rfl⟩
  | cons b bs ih =>
    obtain ⟨hsame, hrest⟩ := hreceive b.lines s s' h (Or.inl trivial)
    rw [feed, feed]
    rcases hr : receive b.lines s with ⟨f | u, s₁⟩ <;>
      rcases hr' : receive b.lines s' with ⟨r, s₁'⟩ <;>
        rw [hr, hr'] at hsame hrest <;> cases hsame
    · exact ⟨hrest, rfl, rfl, rfl⟩
    · exact ih b.stop hrest

/-- Reading a file on comes to the same for a receiver that does not tell two states apart. -/
theorem content_alike (hreceive : ∀ batch, Effect.Mirrors R True (receive batch) (receive batch))
    (rules : List RuleSet) (settings : Settings) (f : File) (start : Nat) {s s' : σ} (h : R s s') :
    (content rules settings receive f start s).Alike R
      (content rules settings receive f start s') := by
  unfold content run
  split
  · exact ⟨h, rfl, rfl, rfl⟩
  · rw [loop_eq_feed, loop_eq_feed]
    exact feed_alike hreceive _ _ _ h

end Receiver

end Scan

namespace Command

/-! ## Printers -/

/-- Nobody stops reading, and the first printer printed some texts before it printed what the second
one has printed. -/
structure Printer.Ahead (before : List Text) (p p' : Printer) : Prop where
  limit : p.limit = none
  limit' : p'.limit = none
  printed : p.printed = p'.printed ++ before

namespace Printer

variable {before : List Text}

theorem Ahead.output {p p' : Printer} (h : Ahead before p p') :
    p.output = before.reverse.flatten ++ p'.output := by
  simp [Printer.output, h.printed]

/-- Printing keeps the distance between the two printers. -/
theorem mirrors_write (t : Text) :
    Effect.Mirrors (Ahead before) True (write t) (write t) := by
  intro p p' h _
  have hopen {p : Printer} (hlimit : p.limit = none) : ¬ p.isClosed = true := by
    simp [isClosed, hlimit]
  rw [write_apply, write_apply, if_neg (hopen h.limit), if_neg (hopen h.limit')]
  refine ⟨rfl, h.limit, h.limit', ?_⟩
  rw [h.printed, List.cons_append]

theorem mirrors_line (t : Text) : Effect.Mirrors (Ahead before) True (line t) (line t) :=
  (mirrors_write t).bind fun _ _ => mirrors_write _

theorem mirrors_lines (ts : List Text) :
    Effect.Mirrors (Ahead before) True (lines ts) (lines ts) := by
  induction ts with
  | nil => exact Effect.mirrors_pure _
  | cons t ts ih => exact (mirrors_line t).bind fun _ _ => ih

/-- A printer that receives a batch does not notice what was printed before. -/
theorem mirrors_receive (batch : List Text) :
    Effect.Mirrors (Ahead before) True (receive batch) (receive batch) := by
  intro p p' h _
  obtain ⟨hsame, hrest⟩ := mirrors_lines batch p p' h (Or.inl trivial)
  exact ⟨congrArg (Except.mapError _) hsame, hrest⟩

end Printer

/-! ## Terminals -/

/-- Two terminals with worlds that are alike, of which the first one has printed some texts more. -/
structure Terminal.Alike (S : Store → Store → Prop) (before : List Text) (t t' : Terminal) :
    Prop where
  world : t.world.Alike S t'.world
  printer : t.printer.Ahead before t'.printer

namespace Act

variable {ε α β : Type} {S : Store → Store → Prop} {before : List Text} {always : Prop}

/-- An action that does not tell two terminals apart. -/
abbrev Mirrors (S : Store → Store → Prop) (before : List Text) (always : Prop) (act : Act α) :
    Prop :=
  Effect.Mirrors (Terminal.Alike S before) always act act

theorem mirrors_say (level : Level) (message : Text) :
    Mirrors S before always (say level message) :=
  fun _ _ h _ => ⟨rfl, h.world.tell _ _, h.printer⟩

theorem mirrors_ofExcept (f : ε → Failure) (r : Except ε α) :
    Mirrors S before always (ofExcept f r) := fun _ _ h _ => ⟨rfl, h⟩

/-- Work on the world prints nothing. -/
theorem mirrors_ofWork (f : ε → Failure) {work : Work ε α}
    (h : Effect.Mirrors (World.Alike S) always work work) :
    Mirrors S before always (ofWork f work) := by
  intro t t' ht hwhen
  have hwork : always ∨ ∃ a, (work t.world).1 = .ok a :=
    hwhen.imp_right fun ⟨a, ha⟩ => ⟨a, Effect.mapError_eq_ok.mp ha⟩
  obtain ⟨hsame, hrest⟩ := h t.world t'.world ht.world hwork
  exact ⟨congrArg (Except.mapError f) hsame, hrest, ht.printer⟩

end Act

/-! ## Processing a log file -/

section Processing

variable {before : List Text} {t t' : Terminal}

theorem mirrors_needed (stateDir : Option Text) : Act.Mirrors Eq before True (needed stateDir) := by
  cases stateDir with
  | none => exact Effect.mirrors_throw _
  | some d => exact Effect.mirrors_pure _

/-- The saved marker is the same, since the stores are. -/
theorem mirrors_savedMarker (stateDir path : Text) :
    Act.Mirrors Eq before True (savedMarker stateDir path) := by
  intro t t' h _
  obtain ⟨t₁, heq, hnoted⟩ := savedMarker_eq stateDir path (h.world.quiet.leavesAlone _)
  obtain ⟨t₁', heq', hnoted'⟩ := savedMarker_eq stateDir path (h.world.quiet'.leavesAlone _)
  rw [heq, heq', h.world.stores]
  refine ⟨rfl, ⟨hnoted.world.quiet h.world.quiet, hnoted'.world.quiet h.world.quiet', ?_⟩, ?_⟩
  · rw [hnoted.world.store h.world.quiet, hnoted'.world.store h.world.quiet', h.world.stores]
  · rw [hnoted.printer, hnoted'.printer]
    exact h.printer

/-- A marker is saved in the same way, since the stores are the same. -/
theorem mirrors_save (stateDir path : Text) (m : Marker) :
    Effect.Mirrors (World.Alike Eq) True (Marker.save stateDir path m)
      (Marker.save stateDir path m) := by
  intro w w' h _
  obtain ⟨hquiet, r, hreplace, hr⟩ := Marker.save_replaces h.quiet stateDir path m
  obtain ⟨hquiet', r', hreplace', hr'⟩ := Marker.save_replaces h.quiet' stateDir path m
  rw [h.stores, hreplace'] at hreplace
  obtain ⟨rfl, hstore⟩ := Prod.mk.inj hreplace
  exact ⟨hr'.trans hr.symm, hquiet, hquiet', hstore.symm⟩

theorem mirrors_saveMarker (stateDir path : Text) (m : Marker) :
    Act.Mirrors Eq before True (saveMarker stateDir path m) := by
  intro t t' h _
  obtain ⟨hsame, hrest⟩ := mirrors_save stateDir path m t.world t'.world h.world (Or.inl trivial)
  unfold saveMarker
  rcases hsave : Marker.save stateDir path m t.world with ⟨e | u, w⟩ <;>
    rcases hsave' : Marker.save stateDir path m t'.world with ⟨r, w'⟩ <;>
      rw [hsave, hsave'] at hsame hrest <;> cases hsame
  · dsimp only
    split
    · exact ⟨rfl, hrest.tell _ _, h.printer⟩
    · exact ⟨rfl, hrest, h.printer⟩
  · exact ⟨rfl, hrest, h.printer⟩

variable (rules : List RuleSet) (s : Scan.Settings)

/-- Reading a log file on comes to the same in front of both terminals. -/
theorem scan_alike (path : Text) (last : Marker) (h : t.Alike Eq before t') :
    (scan rules s path last t').1 = (scan rules s path last t).1 ∧
      (scan rules s path last t).2.Alike Eq before (scan rules s path last t').2 := by
  unfold scan
  rw [Scan.logFile_apply, Scan.logFile_apply, ← h.world.stores]
  cases t.world.store.fileAt path with
  | error e => exact ⟨rfl, h.world, h.printer⟩
  | ok id =>
    dsimp only
    have hnoted : World.Alike Eq (Scan.noted path (some last) (t.world.store.file id) t.world)
        (Scan.noted path (some last) (t.world.store.file id) t'.world) := by
      unfold Scan.noted
      split
      · exact h.world.tell _ _
      · exact h.world
    rw [← hnoted.stores]
    have hcontent := Scan.content_alike Printer.mirrors_receive rules s
      ((Scan.noted path (some last) (t.world.store.file id) t.world).store.file id)
      (Marker.resume (some last) (t.world.store.file id) 0) h.printer
    exact ⟨hcontent.conclude _, hnoted, hcontent.state⟩

theorem mirrors_firstMarker (o : Options) (stateDir : Option Text) (path : Text) :
    Act.Mirrors Eq before True (firstMarker o stateDir path) := by
  unfold firstMarker
  split
  · exact Effect.mirrors_pure _
  · exact (mirrors_needed stateDir).bind fun _ _ => mirrors_savedMarker _ _

/-- A marker is kept, or not, in the same way. -/
theorem mirrors_keepMarker (o : Options) (stateDir : Option Text) (path : Text)
    (r : Except Scan.FileFailure Marker) :
    Act.Mirrors Eq before True (keepMarker o stateDir path r) := by
  unfold keepMarker
  cases r with
  | ok m =>
    dsimp only
    split
    · exact Effect.mirrors_pure _
    · exact (mirrors_needed stateDir).bind fun _ _ => mirrors_saveMarker _ _ _
  | error e =>
    have hthrow : Act.Mirrors Eq before True (throw (.logFile e) : Act Unit) :=
      Effect.mirrors_throw _
    dsimp only
    split
    · split
      · refine Effect.Mirrors.bind (mirrors_needed stateDir) fun d _ => ?_
        exact (Act.mirrors_ofWork _ (mirrors_save d path _)).bind fun _ _ => hthrow
      · exact hthrow
    · exact hthrow

/-- **Processing a log file** does not depend on what was printed before. -/
theorem mirrors_processFile (o : Options) (stateDir : Option Text) (path : Text) :
    Act.Mirrors Eq before True (processFile rules s o stateDir path) := by
  rw [processFile_eq]
  refine (Act.mirrors_say _ _).bind fun _ _ => ?_
  refine (mirrors_firstMarker o stateDir path).bind fun last _ => ?_
  refine Effect.Mirrors.bind ?_ fun r _ => mirrors_keepMarker o stateDir path r
  intro t t' h _
  obtain ⟨hsame, hrest⟩ := scan_alike rules s path last h
  exact ⟨congrArg Except.ok hsame, hrest⟩

end Processing

end Command

end LineSift
