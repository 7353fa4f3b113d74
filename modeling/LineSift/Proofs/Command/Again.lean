import LineSift.Command.Paths
import LineSift.Proofs.Command.Alike
import LineSift.Proofs.Command.Prepare

/-!
# Preparing again after a log file has been processed

Processing a log file changes nothing in the store but the file of its marker, the temporary one,
and directories on the way to them (`proceeds_processFile`).  If the file of the configuration is
none of these, what is found out before log files are processed is found out again by the next run
(`repeats_prepare`).
-/

namespace LineSift

open Text (ofString)

/-! ## The places of a marker -/

namespace Marker

/-- The places of the file of a marker and of the temporary one. -/
def IsPlace (s : Store) (stateDir path : Text) (p : Place) : Prop :=
  p = s.spelled (statePath s.workingPath stateDir path) ∨
    p = s.spelled (statePath s.workingPath stateDir path ++ ofString ".tmp")

theorem isPlace_iff {s s' : Store} (h : s'.working = s.working) {stateDir path : Text} {p : Place} :
    IsPlace s' stateDir path p ↔ IsPlace s stateDir path p := by
  have hworking : s'.workingPath = s.workingPath := by
    rw [Store.workingPath, Store.workingPath, h]
  simp only [IsPlace, hworking, Store.spelled_eq h]

/-- The names of the files of markers begin with a point. -/
theorem head?_stateName (working path : Text) :
    (stateName working path).head? = some (.char '.') := by
  obtain ⟨rest, hrest⟩ : ∃ rest, Store.absolutePath working path = Store.slash :: rest := by
    unfold Store.absolutePath Store.normalPath
    dsimp only
    split
    · exact ⟨_, rfl⟩
    · exact ⟨_, rfl⟩
  rw [stateName, hrest]
  rfl

theorem IsPlace.hidden {s : Store} {stateDir path : Text} {p : Place}
    (h : IsPlace s stateDir path p) : Store.isShown p = false := by
  have hhead := head?_stateName s.workingPath path
  rcases h with rfl | rfl
  · rw [spelled_statePath]
    exact Store.isShown_hidden hhead _
  · rw [spelled_temporary]
    exact Store.isShown_hidden (Store.head?_temporary hhead) _

/-- Saving a marker, however far it comes, touches nothing but the places of the marker. -/
theorem save_touches (w : Ground) (stateDir path : Text) (m : Marker) :
    Store.Spared stateDir (IsPlace w.store stateDir path) w.store
      (save stateDir path m w).2.store := by
  refine (save_spared w stateDir path m).mono ?_
  rintro p (hp | ⟨-, hp⟩)
  · exact Or.inr (hp.trans (spelled_temporary _ _ _).symm)
  · exact Or.inl (hp.trans (spelled_statePath _ _ _).symm)

end Marker

namespace Command

/-! ## What processing a log file leaves -/

/-- As long as messages are not written into files they still are not, and nothing is touched in the
store, which is a tree, but some places. -/
def Terminal.Proceeds (working : Place) (stateDir : Text) (touched : Place → Prop)
    (t t' : Terminal) : Prop :=
  t.world.IsQuiet → t.world.store.Tree → t.world.store.working = working →
    t'.world.IsQuiet ∧ t.world.store.Spared stateDir touched t'.world.store

section Proceeding

variable {working : Place} {stateDir : Text} {touched : Place → Prop}

theorem Terminal.Proceeds.of_noted {t t' : Terminal}
    (h : t.world.IsQuiet → t.world.Noted t'.world) : t.Proceeds working stateDir touched t' := by
  intro hw _ _
  rw [(h hw).store hw]
  exact ⟨(h hw).quiet hw, .refl _ _ _⟩

theorem Terminal.Proceeds.refl (t : Terminal) : t.Proceeds working stateDir touched t :=
  .of_noted fun _ => .refl _

theorem Terminal.Proceeds.trans {t t' t'' : Terminal} (h : t.Proceeds working stateDir touched t')
    (h' : t'.Proceeds working stateDir touched t'') : t.Proceeds working stateDir touched t'' := by
  intro hw hs hworking
  obtain ⟨hw', hspared⟩ := h hw hs hworking
  obtain ⟨hw'', hspared'⟩ := h' hw' (hspared.tree hs) (hspared.working.trans hworking)
  exact ⟨hw'', hspared.trans hspared'⟩

theorem scan_noted (rules : List RuleSet) (s : Scan.Settings) (path : Text) (last : Marker)
    (t : Terminal) : t.world.Noted (scan rules s path last t).2.world := by
  unfold scan
  rw [Scan.logFile_apply]
  cases t.world.store.fileAt path with
  | error e => exact .refl _
  | ok id => exact Scan.noted_world _ _ _ _

variable {stateDir : Option Text} {path : Text}

/-- What may be touched when the marker of a log file is saved. -/
def MayTouch (working : Place) (stateDir : Option Text) (path : Text) (touched : Place → Prop) :
    Prop :=
  ∀ d ∈ stateDir, ∀ s : Store, s.working = working → ∀ p, Marker.IsPlace s d path p → touched p

theorem save_proceeds (htouched : MayTouch working stateDir path touched) {d : Text}
    (hd : d ∈ stateDir) (m : Marker) {t t' : Terminal}
    (h : t'.world = (Marker.save d path m t.world).2) :
    t.Proceeds working (stateDir.getD []) touched t' := by
  intro hw hs hworking
  -- the world as it is before the marker is saved, with what is known of it
  let w : Ground := ⟨t.world, hw, hs⟩
  rw [h, Option.mem_def.mp hd]
  exact ⟨(Marker.afterSave w d path m).quiet,
    (Marker.save_touches w d path m).mono fun hp => htouched d hd _ hworking _ hp⟩

theorem proceeds_needed {α : Type} {d : Text} {next : Text → Act α}
    (hnext : ∀ e ∈ stateDir, Effect.Within (Terminal.Proceeds working d touched) (next e)) :
    Effect.Within (Terminal.Proceeds working d touched) (needed stateDir >>= next) := by
  cases stateDir with
  | none => exact fun t => .refl t
  | some e => exact hnext e rfl

theorem proceeds_firstMarker (o : Options) (d : Text) :
    Effect.Within (Terminal.Proceeds working d touched) (firstMarker o stateDir path) := by
  unfold firstMarker
  split
  · exact Effect.within_pure .refl _
  · refine proceeds_needed fun e _ t => Terminal.Proceeds.of_noted fun ht => ?_
    obtain ⟨t', heq, hnoted⟩ := savedMarker_eq e path (ht.leavesAlone _)
    rw [heq]
    exact hnoted.world

theorem proceeds_saveMarker (htouched : MayTouch working stateDir path touched) {d : Text}
    (hd : d ∈ stateDir) (m : Marker) :
    Effect.Within (Terminal.Proceeds working (stateDir.getD []) touched) (saveMarker d path m) := by
  intro t
  have hsave (r : Except Marker.SavedError Unit) (w : World)
      (h : Marker.save d path m t.world = (r, w)) :
      t.Proceeds working (stateDir.getD []) touched { t with world := w } :=
    save_proceeds htouched hd m (by rw [h])
  unfold saveMarker
  split
  · next w h => exact hsave _ w h
  · next e w h =>
    split
    · exact (hsave _ w h).trans (.of_noted fun _ => .tell _ _)
    · exact hsave _ w h

theorem proceeds_keepMarker {o : Options}
    (htouched : o.keepState = false → MayTouch working stateDir path touched)
    (r : Except Scan.FileFailure Marker) :
    Effect.Within (Terminal.Proceeds working (stateDir.getD []) touched)
      (keepMarker o stateDir path r) := by
  unfold keepMarker
  cases r with
  | ok m =>
    dsimp only
    split
    · exact Effect.within_pure .refl _
    · next hkeep =>
      exact proceeds_needed fun d hd => proceeds_saveMarker (htouched (by simpa using hkeep)) hd m
  | error e =>
    have hthrow : Effect.Within (Terminal.Proceeds working (stateDir.getD []) touched)
        (throw (.logFile e) : Act Unit) := Effect.within_throw .refl _
    dsimp only
    split
    · next m _ =>
      split
      · next hkeep =>
        refine proceeds_needed fun d hd => ?_
        have hsave : Effect.Within (Terminal.Proceeds working (stateDir.getD []) touched)
            (Act.ofWork .marker (Marker.save d path m)) :=
          fun t => save_proceeds (htouched (by simpa using hkeep)) hd m rfl
        exact hsave.bind .trans fun _ => hthrow
      · exact hthrow
    · exact hthrow

/-- **Processing a log file** changes nothing in the store but the places of its marker. -/
theorem proceeds_processFile (rules : List RuleSet) (s : Scan.Settings) {o : Options}
    (htouched : o.keepState = false → MayTouch working stateDir path touched) :
    Effect.Within (Terminal.Proceeds working (stateDir.getD []) touched)
      (processFile rules s o stateDir path) := by
  rw [processFile_eq]
  have hsay (message : Text) : Effect.Within
      (Terminal.Proceeds working (stateDir.getD []) touched) (Act.say .info message) :=
    fun t => .of_noted fun _ => .tell t.world _
  refine (hsay _).bind .trans fun _ => ?_
  refine (proceeds_firstMarker o _).bind .trans fun last => ?_
  refine Effect.Within.bind .trans (x := liftM (scan rules s path last)) (fun t => ?_)
    (proceeds_keepMarker htouched)
  exact .of_noted fun _ => scan_noted rules s path last t

end Proceeding

/-! ## Preparing again -/

section Preparing

variable {s s' : Store} {before : List Text} {environment : Option Text} {o : Options}

/-- What a run does again on another store if it succeeds on the first one, and in any case if the
stores are the same. -/
abbrev Act.Repeats {α : Type} (s s' : Store) (before : List Text) (act : Act α) : Prop :=
  Act.Mirrors (fun a b => a = s ∧ b = s') before (s = s') act

theorem repeats_openConfig (hbytes : ∀ path ∈ o.configPath? environment, ∀ bytes,
      s.bytesAt path = .ok bytes → s'.bytesAt path = .ok bytes) :
    Act.Repeats s s' before (openConfig environment o.config) := by
  unfold Options.configPath? at hbytes
  cases hc : o.config with
  | unnamed =>
    rw [hc] at hbytes
    exact Act.mirrors_ofWork _ (Config.repeats_openAt _ _ hbytes)
  | void => exact Effect.mirrors_throw _
  | named path =>
    rw [hc] at hbytes
    exact Act.mirrors_ofWork _ (Config.repeats_openAt _ _ hbytes)

/-- A terminal in front of which a run begins; what it prints is read to the end. -/
def Terminal.ready (clock : Text) (s : Store) : Terminal := { world := { store := s, clock } }

theorem Terminal.ready_quiet (clock : Text) (s : Store) : (ready clock s).world.IsQuiet :=
  .of_none rfl

theorem Terminal.Alike.ready {S : Store → Store → Prop} {t : Terminal} (ht : t.world.IsQuiet)
    (hlimit : t.printer.limit = none) (hstore : S t.world.store s) (clock : Text) :
    t.Alike S t.printer.printed (.ready clock s) :=
  ⟨⟨ht, ready_quiet _ _, hstore⟩, hlimit, rfl, rfl⟩

/-- The configuration sends messages to the error output. -/
def LogsToErrors (environment : Option Text) (o : Options) (s : Store) : Prop :=
  ∀ c v, (openConfig environment o.config (.ready [] s)).1 = .ok c →
    c.value "general" "logging" = .ok v → v = []

theorem LogsToErrors.of_value (h : ((openConfig environment o.config (.ready [] s)).1.toOption.map
    fun c => (c.value "general" "logging").toOption) = some (some [])) :
    LogsToErrors environment o s := by
  intro c v hc hv
  rw [hc, Except.toOption, Option.map_some, hv] at h
  exact Option.some.inj (Option.some.inj h)

theorem repeats_start (hlog : LogsToErrors environment o s)
    (hbytes : ∀ path ∈ o.configPath? environment, ∀ bytes,
      s.bytesAt path = .ok bytes → s'.bytesAt path = .ok bytes) :
    Act.Repeats s s' before (start environment o) := by
  unfold start
  refine (repeats_openConfig hbytes).bind ?_
  rintro c ⟨t, _, ⟨⟨hquiet, -, hstore, -⟩, ⟨hlimit, -, -⟩⟩, hopen⟩
  have hsame : Act.Repeats s s t.printer.printed (openConfig environment o.config) :=
    repeats_openConfig fun _ _ _ h => h
  have hready := hsame t _ (.ready hquiet hlimit ⟨hstore, rfl⟩ []) (Or.inl rfl)
  refine (Act.mirrors_ofExcept _ _).bind ?_
  rintro path ⟨_, _, -, hpath⟩
  obtain rfl : path = [] := hlog c path (hready.1.trans hopen) (Effect.mapError_eq_ok.mp hpath)
  have htarget : Act.Repeats s s' before (Act.ofWork .store (Log.openTarget [])) :=
    Act.mirrors_ofWork _ (Work.repeats_pure _)
  refine Effect.Mirrors.bind htarget ?_
  rintro target ⟨_, _, -, htarget⟩
  obtain rfl : LogTarget.errorOutput = target := Except.ok.inj htarget
  intro t t' h _
  have hquiet (w : World) : World.IsQuiet { w with target := some (.errorOutput, o.level) } :=
    .of_errorOutput rfl
  have hset : Terminal.Alike (fun a b => a = s ∧ b = s') before
      { t with world := { t.world with target := some (.errorOutput, o.level) } }
      { t' with world := { t'.world with target := some (.errorOutput, o.level) } } :=
    ⟨⟨hquiet _, hquiet _, h.world.stores⟩, h.printer⟩
  rw [Effect.modify_bind, Effect.modify_bind]
  split
  · exact ⟨rfl, hset.world.tell _ _, hset.printer⟩
  · exact ⟨rfl, hset⟩

theorem repeats_directory (c : Config) (option : Text) (choice : PathChoice) :
    Act.Repeats s s' before (directory c option choice) := by
  cases choice with
  | unnamed =>
    intro t t' h _
    unfold directory
    cases c.value "general" option <;> exact ⟨rfl, h⟩
  | void => exact Effect.mirrors_pure _
  | named path => exact Effect.mirrors_pure _

theorem repeats_loadRules
    (hload : ∀ globals check policy path,
      Work.Repeats s s' (RuleSet.loadDirectory globals check policy path))
    (c : Config) (chosen : PathChoice) : Act.Repeats s s' before (loadRules c chosen) := by
  unfold loadRules
  refine (repeats_directory _ _ _).bind fun d _ => ?_
  refine (Act.mirrors_ofWork _ (Work.repeats_ofLogged _)).bind fun globals _ => ?_
  refine (Act.mirrors_say _ _).bind fun _ _ => ?_
  refine (Act.mirrors_ofExcept _ _).bind fun check _ => ?_
  refine (Act.mirrors_ofExcept _ _).bind fun policy _ => ?_
  cases d with
  | none => exact Effect.mirrors_throw _
  | some path => exact Act.mirrors_ofWork _ (hload _ _ _ _)

theorem repeats_prepareWith
    (hload : ∀ globals check policy path,
      Work.Repeats s s' (RuleSet.loadDirectory globals check policy path))
    (c : Config) : Act.Repeats s s' before (prepareWith o c) := by
  unfold prepareWith
  refine (repeats_loadRules hload _ _).bind fun rules _ => ?_
  refine (repeats_directory _ _ _).bind fun d _ => ?_
  refine (Act.mirrors_ofExcept _ _).bind fun paths _ => ?_
  refine Effect.Mirrors.unless (Effect.mirrors_throw _) fun _ => ?_
  exact (Act.mirrors_ofExcept _ _).bind fun settings _ => Effect.mirrors_pure _

/-- **What is found out** before log files are processed is found out again when nothing but hidden
places has been touched, and the file of the configuration is none of them. -/
theorem repeats_prepare {s : FileTree} {stateDir : Text} {touched : Place → Prop}
    (h : Store.Spared stateDir touched s s')
    (hhidden : ∀ p, touched p → Store.isShown p = false) (hlog : LogsToErrors environment o s)
    (hconfig : ∀ path ∈ o.configPath? environment, ¬ touched (s.spelled path)) :
    Act.Repeats s s' before (prepare environment o) := by
  have hbytes : ∀ path ∈ o.configPath? environment, ∀ bytes,
      s.bytesAt path = .ok bytes → s'.bytesAt path = .ok bytes :=
    fun path hpath bytes => h.bytesAt_of_ok (hconfig path hpath)
  refine Effect.Mirrors.bind (repeats_start hlog hbytes) fun c _ => ?_
  exact repeats_prepareWith (RuleSet.loadDirectory_spared h s.tree hhidden) c

/-- The log files of the command line are processed, whatever the configuration says. -/
theorem targets_operands (c : Config) {paths : List Text} (h : paths ≠ []) :
    targets c { o with operands := paths } = .ok paths := if_pos h

/-- Which log files are named makes no other difference. -/
theorem prepare_operands (environment : Option Text) (o : Options) {paths paths' : List Text}
    (h : paths ≠ []) (h' : paths' ≠ []) :
    prepare environment { o with operands := paths' } =
      prepare environment { o with operands := paths } >>= fun p =>
        pure { p with paths := paths' } := by
  have hpure (paths : List Text) :
      (Act.ofExcept .config (Except.ok paths : Except Config.Error (List Text)) : Act (List Text)) =
        pure paths := rfl
  have hwith (c : Config) : prepareWith { o with operands := paths' } c =
      prepareWith { o with operands := paths } c >>= fun p => pure { p with paths := paths' } := by
    unfold prepareWith
    rw [targets_operands c h, targets_operands c h', hpure, hpure]
    simp [h, h']
  rw [prepare, prepare, bind_assoc]
  exact congrArg (start environment o >>= ·) (funext hwith)

end Preparing

end Command

end LineSift
