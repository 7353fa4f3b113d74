import LineSift.Proofs.Looking
import LineSift.Proofs.RuleSet.Names

/-!
# Looking at a store again

What opening a configuration and loading rules come to depends on the store alone, and on little of
it.  If it succeeds, it comes to the same on every store with the same bytes in the file of the
configuration and the same files in the directory of the rules (`Config.repeats_openAt`,
`RuleSet.repeats_loadDirectory`).  So loading rules comes to the same when a marker has been saved
in the meantime, even if it was saved in the directory of the rules
(`RuleSet.loadDirectory_spared`).
-/

namespace LineSift

/-- Two worlds whose stores are related, and in which messages are not written into files. -/
structure World.Alike (S : Store → Store → Prop) (w w' : World) : Prop where
  quiet : w.IsQuiet
  quiet' : w'.IsQuiet
  stores : S w.store w'.store

namespace World.Alike

variable {S : Store → Store → Prop} {w w' : World}

/-- A message each, even different ones, leaves worlds alike. -/
theorem tell (h : Alike S w w') (r r' : LogRecord) : Alike S (w.tell r) (w'.tell r') where
  quiet := h.quiet.tell r
  quiet' := h.quiet'.tell r'
  stores := by
    rw [h.quiet.tell_store, h.quiet'.tell_store]
    exact h.stores

theorem foldl_tell (h : Alike S w w') (log : Log) :
    Alike S (log.foldl World.tell w) (log.foldl World.tell w') := by
  induction log generalizing w w' with
  | nil => exact h
  | cons r log ih => exact ih (h.tell r r)

end World.Alike

namespace Work

variable {ε δ α β : Type} {s s' : Store}

/-- What succeeds on the first store comes to the same on the second one.  If they are one and the
same, so does what fails. -/
abbrev Repeats (s s' : Store) (work : Work ε α) : Prop :=
  Effect.Mirrors (World.Alike fun a b => a = s ∧ b = s') (s = s') work work

/-- Work that is repeated in steps is repeated as a whole. -/
theorem Repeats.bind {work : Work ε α} {next : α → Work ε β} (h : Repeats s s' work)
    (hnext : ∀ a, Repeats s s' (next a)) : Repeats s s' (work >>= next) :=
  Effect.Mirrors.bind h fun a _ => hnext a

theorem repeats_pure (a : α) : Repeats s s' (pure a : Work ε α) := Effect.mirrors_pure a

theorem repeats_throw (e : ε) : Repeats s s' (throw e : Work ε α) := Effect.mirrors_throw e

theorem repeats_say (level : Level) (message : Text) :
    Repeats s s' (say level message : Work ε Unit) := fun _ _ h _ => ⟨rfl, h.tell _ _⟩

theorem repeats_ofLogged (work : Logged ε α) : Repeats s s' (ofLogged work) :=
  fun _ _ h _ => ⟨rfl, h.foldl_tell _⟩

theorem repeats_ofExcept (f : δ → ε) (r : Except δ α) : Repeats s s' (ofExcept f r) :=
  fun _ _ h _ => ⟨rfl, h⟩

theorem ofStore_ok {f : Store.Error → ε} {look : Store → Except Store.Error α} {w : World} {a : α}
    (h : (ofStore f look w).1 = .ok a) : look w.store = .ok a := Effect.mapError_eq_ok.mp h

/-- A look at the store is repeated if it finds the same there. -/
theorem repeats_ofStore (f : Store.Error → ε) {look : Store → Except Store.Error α}
    (hlook : ∀ a, look s = .ok a → look s' = .ok a) : Repeats s s' (ofStore f look) := by
  rintro w w' ⟨hw, hw', rfl, rfl⟩ hwhen
  refine ⟨?_, hw, hw', rfl, rfl⟩
  unfold ofStore
  rcases hwhen with heq | ⟨a, ha⟩
  · rw [heq]
  · rw [hlook a (ofStore_ok ha), ofStore_ok ha]

theorem Repeats.mapError {work : Work δ α} (h : Repeats s s' work) (f : δ → ε) :
    Repeats s s' (work.mapError f) := by
  intro w w' hw hwhen
  have hfirst : s = s' ∨ ∃ a, (work w).1 = .ok a :=
    hwhen.imp_right fun ⟨a, ha⟩ => ⟨a, Effect.mapError_eq_ok.mp ha⟩
  obtain ⟨hsame, hrest⟩ := h w w' hw hfirst
  exact ⟨congrArg (Except.mapError f) hsame, hrest⟩

end Work

open Work

/-- A path that leads to something with bytes leads to something. -/
theorem Store.found_of_bytesAt {s : Store} {path : Text} {bytes : Bytes}
    (h : s.bytesAt path = .ok bytes) : s.found path = true := by
  unfold bytesAt at h
  cases hf : s.fileAt path with
  | error e =>
    rw [hf] at h
    cases h
  | ok id =>
    obtain ⟨p, hp, hn⟩ := fileAt_eq_ok.mp hf
    simp [found, find?, hp, hn]

namespace Config

variable {s s' : Store}

/-- What is read from the file of a configuration depends on what its path leads to. -/
theorem fromFile_apply (path : Text) (w : World) :
    fromFile path w =
      (if !w.store.found path then .error (.notFound path)
        else match w.store.bytesAt path with
          | .error _ => .error (.unreadable path)
          | .ok bytes => (parse path bytes).map (·.put generalSection "base_filename" path),
            w) := by
  unfold fromFile
  rw [Effect.get_bind]
  split
  · rfl
  · dsimp only
    rw [Effect.get_bind]
    cases w.store.bytesAt path with
    | error e => rfl
    | ok bytes =>
      dsimp only
      rw [Effect.bind_apply]
      unfold Work.ofExcept
      cases parse path bytes <;> rfl

/-- A configuration is read again if its file holds the same bytes. -/
theorem repeats_fromFile {path : Text}
    (hbytes : ∀ bytes, s.bytesAt path = .ok bytes → s'.bytesAt path = .ok bytes) :
    Repeats s s' (fromFile path) := by
  rintro w w' ⟨hw, hw', rfl, rfl⟩ hwhen
  rw [fromFile_apply, fromFile_apply] at *
  refine ⟨?_, hw, hw', rfl, rfl⟩
  rcases hwhen with heq | ⟨c, hc⟩
  · rw [heq]
  · dsimp only at hc ⊢
    cases hb : w.store.bytesAt path with
    | error e =>
      rw [hb] at hc
      split at hc <;> cases hc
    | ok bytes =>
      have hb' := hbytes bytes hb
      rw [hb', Store.found_of_bytesAt hb, Store.found_of_bytesAt hb']

/-- **Opening a configuration** again comes to the same as long as its file holds the same. -/
theorem repeats_openAt {given environment : Option Text} (complete verbose : Bool)
    (hbytes : ∀ path ∈ given.or environment, ∀ bytes,
      s.bytesAt path = .ok bytes → s'.bytesAt path = .ok bytes) :
    Repeats s s' (openAt given environment complete verbose) := by
  unfold openAt
  cases hpath : given.or environment with
  | some path =>
    refine (repeats_fromFile (hbytes path ?_)).bind fun _ => repeats_pure _
    rw [hpath]
    exact rfl
  | none =>
    exact Effect.Mirrors.unless (repeats_say _ _) fun _ =>
      (repeats_pure _).bind fun _ => repeats_pure _

end Config

namespace RuleSet

variable {s s' : Store}

/-- A text is read again if its file holds the same bytes. -/
theorem repeats_readText {path : Text}
    (hbytes : ∀ bytes, s.bytesAt path = .ok bytes → s'.bytesAt path = .ok bytes) :
    Repeats s s' (readText path) :=
  (repeats_ofStore _ hbytes).bind fun _ => (repeats_ofExcept _ _).bind fun _ => repeats_pure _

/-- Rules are loaded again if their files hold the same bytes. -/
theorem repeats_loadFiles (globals : Assoc Field) (check : Bool) (policy : Text) {paths : List Text}
    (hbytes : ∀ path ∈ paths, ∀ bytes,
      s.bytesAt path = .ok bytes → s'.bytesAt path = .ok bytes) :
    Repeats s s' (loadFiles globals check policy paths) := by
  induction paths with
  | nil => exact repeats_pure _
  | cons path paths ih =>
    have hfile : Repeats s s' (loadFile globals policy path) :=
      (repeats_readText (hbytes path List.mem_cons_self)).bind fun _ =>
        (repeats_ofLogged _).mapError _
    unfold loadFiles
    refine hfile.bind fun r => ?_
    have hrest (message : Text) : Repeats s s' (Work.say .debug message >>= fun _ =>
        loadFiles globals check policy paths >>= fun rs =>
          (pure (r :: rs) : Work LoadError (List RuleSet))) :=
      (repeats_say _ _).bind fun _ =>
        (ih fun q hq => hbytes q (List.mem_cons_of_mem _ hq)).bind fun _ => repeats_pure _
    split
    · split
      · exact (repeats_throw _).bind fun _ => hrest _
      · exact hrest _
    · exact hrest _

/-- The rules of a directory are loaded again if it has the same files with the same bytes. -/
theorem repeats_loadDirectory (globals : Assoc Field) (check : Bool) (policy : Text)
    {directory : Text} (hdir : s.isDirectory directory = true → s'.isDirectory directory = true)
    (hfiles : s.isDirectory directory = true → ∀ paths, filesIn s directory = .ok paths →
      filesIn s' directory = .ok paths ∧
        ∀ path ∈ paths, ∀ bytes, s.bytesAt path = .ok bytes → s'.bytesAt path = .ok bytes) :
    Repeats s s' (loadDirectory globals check policy directory) := by
  unfold loadDirectory
  refine Effect.Mirrors.get_bind fun w w' ⟨_, _, hstore, hstore'⟩ => ?_
  rw [hstore, hstore']
  by_cases hd : s.isDirectory directory = true
  · have hfiles := hfiles hd
    rw [if_neg (by simp [hd]), if_neg (by simp [hdir hd])]
    refine Effect.Mirrors.bind (repeats_ofStore _ fun paths h => (hfiles paths h).1) ?_
    rintro paths ⟨v, _, ⟨-, -, hv, -⟩, hpaths⟩
    have hfound : filesIn s directory = .ok paths := hv ▸ ofStore_ok hpaths
    exact (repeats_loadFiles globals check policy (hfiles paths hfound).2).bind fun _ =>
      (repeats_say _ _).bind fun _ => repeats_pure _
  · intro t t' ht hwhen
    rw [if_pos (by simp [hd])] at hwhen
    rcases hwhen with rfl | ⟨a, ha⟩
    · rw [if_pos (by simp [hd])]
      exact ⟨rfl, ht⟩
    · cases ha

/-- **Loading rules** again comes to the same when nothing but hidden places has been touched. -/
theorem loadDirectory_spared {stateDir : Text} {touched : Place → Prop}
    (h : Store.Spared stateDir touched s s') (hs : s.Tree)
    (hhidden : ∀ p, touched p → Store.isShown p = false) (globals : Assoc Field) (check : Bool)
    (policy directory : Text) : Repeats s s' (loadDirectory globals check policy directory) := by
  apply repeats_loadDirectory
  · exact h.isDirectory
  · exact fun hdirectory _ => filesIn_spared h hs hhidden hdirectory

end RuleSet

end LineSift
