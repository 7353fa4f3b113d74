import LineSift.Config.Open
import LineSift.Proofs.Effect
import LineSift.Proofs.World
import LineSift.RuleSet.Directory

/-!
# Work that only looks at a store

Opening a configuration and loading rules look at files and leave messages.  Where messages are
written down stays the same, and so does the store, but for lines at the end of the file that
messages are written into, if there is one (`onlyLooks_openAt`, `onlyLooks_loadDirectory`).
-/

namespace LineSift

namespace Work

variable {ε δ α β : Type}

/-- Work that only looks at the store. -/
abbrev OnlyLooks (work : Work ε α) : Prop := Effect.Within World.Noted work

theorem OnlyLooks.bind {work : Work ε α} {next : α → Work ε β} (h : work.OnlyLooks)
    (hnext : ∀ a, (next a).OnlyLooks) : OnlyLooks (work >>= next) :=
  Effect.Within.bind .trans h hnext

theorem onlyLooks_pure (a : α) : OnlyLooks (pure a : Work ε α) := Effect.within_pure .refl a

theorem onlyLooks_throw (e : ε) : OnlyLooks (throw e : Work ε α) := Effect.within_throw .refl e

theorem onlyLooks_get : OnlyLooks (get : Work ε World) := Effect.within_get .refl

/-- A message is all that is left. -/
theorem onlyLooks_say (level : Level) (message : Text) :
    OnlyLooks (say level message : Work ε Unit) :=
  fun w => .tell w _

/-- Messages one after the other are left, and nothing else. -/
theorem onlyLooks_ofLogged (work : Logged ε α) : OnlyLooks (ofLogged work) :=
  fun w => .foldl_tell _ w

/-- A look at the store leaves it as it is, found or not. -/
theorem onlyLooks_ofStore (f : Store.Error → ε) (look : Store → Except Store.Error α) :
    OnlyLooks (ofStore f look) := .refl

theorem onlyLooks_ofExcept (f : δ → ε) (r : Except δ α) : OnlyLooks (ofExcept f r) := .refl

theorem OnlyLooks.mapError {work : Work δ α} (h : work.OnlyLooks) (f : δ → ε) :
    OnlyLooks (work.mapError f) := h

/-- A refusal on a condition, with what is done otherwise. -/
theorem onlyLooks_unless {c : Prop} [Decidable c] {refusal : Work ε PUnit} {rest : PUnit → Work ε α}
    (h : refusal.OnlyLooks) (hrest : ∀ u, (rest u).OnlyLooks) :
    OnlyLooks (if c then refusal >>= rest else rest ⟨⟩) :=
  Effect.Within.unless .trans h hrest

end Work

open Work

/-- A configuration is read from the bytes of its file, whatever they hold. -/
theorem Config.onlyLooks_fromFile (path : Text) : OnlyLooks (Config.fromFile path) := by
  unfold Config.fromFile
  refine onlyLooks_get.bind fun w => ?_
  refine onlyLooks_unless (onlyLooks_throw _) fun _ => ?_
  refine onlyLooks_get.bind fun w => ?_
  split
  · exact onlyLooks_throw _
  · exact (onlyLooks_ofExcept _ _).bind fun _ => onlyLooks_pure _

/-- Opening a configuration looks at its file. -/
theorem Config.onlyLooks_openAt (given environment : Option Text) (complete verbose : Bool) :
    OnlyLooks (Config.openAt given environment complete verbose) := by
  unfold Config.openAt
  cases given.or environment with
  | some path => exact (Config.onlyLooks_fromFile path).bind fun _ => onlyLooks_pure _
  | none =>
    exact onlyLooks_unless (onlyLooks_say _ _) fun _ =>
      (onlyLooks_pure _).bind fun _ => onlyLooks_pure _

namespace RuleSet

theorem onlyLooks_readText (path : Text) : OnlyLooks (readText path) :=
  (onlyLooks_ofStore _ _).bind fun _ => (onlyLooks_ofExcept _ _).bind fun _ => onlyLooks_pure _

/-- Loading rules from a file looks at this file and leaves the messages of its text. -/
theorem onlyLooks_loadFile (globals : Assoc Field) (policy path : Text) :
    OnlyLooks (loadFile globals policy path) :=
  (onlyLooks_readText path).bind fun _ => (onlyLooks_ofLogged _).mapError _

/-- The same for several files, by induction on them: a check that finds something at fault stops,
which is a refusal like any other. -/
theorem onlyLooks_loadFiles (globals : Assoc Field) (check : Bool) (policy : Text)
    (paths : List Text) : OnlyLooks (loadFiles globals check policy paths) := by
  induction paths with
  | nil => exact onlyLooks_pure _
  | cons path paths ih =>
    unfold loadFiles
    refine (onlyLooks_loadFile globals policy path).bind fun r => ?_
    have hrest (message : Text) : OnlyLooks (Work.say .debug message >>= fun _ =>
        loadFiles globals check policy paths >>= fun rs =>
          (pure (r :: rs) : Work LoadError (List RuleSet))) :=
      (onlyLooks_say _ _).bind fun _ => ih.bind fun _ => onlyLooks_pure _
    split
    · split
      · exact (onlyLooks_throw _).bind fun _ => hrest _
      · exact hrest _
    · exact hrest _

/-- Loading rules looks at the files of their directory. -/
theorem onlyLooks_loadDirectory (globals : Assoc Field) (check : Bool) (policy directory : Text) :
    OnlyLooks (loadDirectory globals check policy directory) := by
  unfold loadDirectory
  refine onlyLooks_get.bind fun w => ?_
  refine onlyLooks_unless (onlyLooks_throw _) fun _ => ?_
  exact (onlyLooks_ofStore _ _).bind fun _ => (onlyLooks_loadFiles _ _ _ _).bind fun _ =>
    (onlyLooks_say _ _).bind fun _ => onlyLooks_pure _

end RuleSet

end LineSift
