import LineSift.Proofs.Alike
import LineSift.Proofs.RuleSet.Loaded
import LineSift.Proofs.RuleSet.Simple
import LineSift.Proofs.Scan.Texts
import LineSift.Proofs.Traversal

/-!
# The rules of a directory

The rules files of a directory are loaded one after the other, each in the world that those in front
of it have left, which differs by messages alone (`worldFor_noted`).  So what becomes of the
directory is told by what becomes of each file (`loadFiles_eq`): all of them are loaded, or the
first that fails decides.  A check refuses a file whose sample lines are not all known, and that is
all it adds, since fields are checked whenever they are loaded.  What has passed the check knows its
samples, so none of them is handed out (`loadDirectory_by_name`).
-/

namespace LineSift

namespace RuleSet

open Store (IsName joinPath)

/-! ## One file after the other -/

/-- What is loaded from a file depends on the bytes that its path leads to. -/
theorem loadFile_congr (globals : Assoc Field) (policy : Text) {path : Text} {w w' : World}
    (h : w'.store.bytesAt path = w.store.bytesAt path) :
    (loadFile globals policy path w').1 = (loadFile globals policy path w).1 := by
  unfold loadFile readText
  simp only [Effect.bind_apply, Work.ofStore, h]
  cases w.store.bytesAt path with
  | error e => rfl
  | ok bytes =>
    simp only [Except.mapError, Work.ofExcept]
    cases Encoding.decodeStrict bytes <;> rfl

theorem loadFile_noted (globals : Assoc Field) (policy : Text) {path : Text} {w w' : World}
    (h : w.Noted w') (hpath : w.LeavesAlone path) :
    (loadFile globals policy path w').1 = (loadFile globals policy path w).1 :=
  loadFile_congr globals policy (h.bytesAt hpath)

/-- What was loaded, unless a check is asked for and finds something at fault. -/
def unlessFaulty (check : Bool) (r : RuleSet) : Except LoadError RuleSet :=
  match check, r.fault? with
  | true, some e => .error (.rules e)
  | _, _ => .ok r

theorem unlessFaulty_eq_ok {check : Bool} {r r' : RuleSet} :
    unlessFaulty check r = .ok r' ↔ r = r' ∧ (check = true → r.fault? = none) := by
  cases check <;> cases hfault : r.fault? <;> simp [unlessFaulty, hfault]

theorem unlessFaulty_eq_error {check : Bool} {r : RuleSet} {e : LoadError} :
    unlessFaulty check r = .error e ↔
      check = true ∧ ∃ fault, r.fault? = some fault ∧ e = .rules fault := by
  cases check <;> cases hfault : r.fault? <;> simp [unlessFaulty, hfault, eq_comm]

/-- What a file comes to by itself. -/
def fileOutcome (globals : Assoc Field) (check : Bool) (policy : Text) (w : World) (path : Text) :
    Except LoadError RuleSet :=
  (loadFile globals policy path w).1.bind (unlessFaulty check)

theorem fileOutcome_eq_ok {globals : Assoc Field} {check : Bool} {policy path : Text} {w : World}
    {r : RuleSet} :
    fileOutcome globals check policy w path = .ok r ↔
      (loadFile globals policy path w).1 = .ok r ∧ (check = true → r.fault? = none) := by
  unfold fileOutcome
  cases (loadFile globals policy path w).1 with
  | error e => simp [Except.bind]
  | ok r' =>
    rw [Except.bind, unlessFaulty_eq_ok, Except.ok.injEq]
    exact and_congr_right fun h => h ▸ Iff.rfl

theorem fileOutcome_eq_error {globals : Assoc Field} {check : Bool} {policy path : Text} {w : World}
    {e : LoadError} :
    fileOutcome globals check policy w path = .error e ↔
      (loadFile globals policy path w).1 = .error e ∨
        check = true ∧ ∃ r fault, (loadFile globals policy path w).1 = .ok r ∧
          r.fault? = some fault ∧ e = .rules fault := by
  unfold fileOutcome
  cases (loadFile globals policy path w).1 with
  | error e' => simp [Except.bind]
  | ok r =>
    rw [Except.bind, unlessFaulty_eq_error]
    simp

/-- The world that is left once the rules of a file have been loaded. -/
def loadedFrom (globals : Assoc Field) (policy path : Text) (w : World) : World :=
  (loadFiles globals false policy [path] w).2

theorem loadFiles_cons (globals : Assoc Field) (check : Bool) (policy path : Text)
    (paths : List Text) (w : World) :
    (loadFiles globals check policy (path :: paths) w).1 =
      (fileOutcome globals check policy w path).bind fun r =>
        (loadFiles globals check policy paths (loadedFrom globals policy path w)).1.map
          (r :: ·) := by
  have hrest (r : RuleSet) (message : Text) (w' : World) :
      ((Work.say .debug message >>= fun _ => loadFiles globals check policy paths >>= fun rs =>
        (pure (r :: rs) : Work LoadError (List RuleSet))) w').1 =
      (loadFiles globals check policy paths (w'.tell ⟨.debug, message⟩)).1.map (r :: ·) := by
    rw [Work.say, Effect.modify_bind, Effect.bind_apply]
    rcases loadFiles globals check policy paths (w'.tell ⟨.debug, message⟩) with ⟨_ | _, _⟩ <;> rfl
  rw [loadFiles, Effect.bind_apply, fileOutcome, loadedFrom, loadFiles, Effect.bind_apply]
  rcases loadFile globals policy path w with ⟨e | r, w'⟩
  · rfl
  · cases check with
    | false => exact hrest r _ w'
    | true =>
      dsimp only [Except.bind]
      cases hfault : r.fault? with
      | none =>
        simp only [unlessFaulty, hfault]
        exact hrest r _ w'
      | some e =>
        simp only [unlessFaulty, hfault]
        rfl

/-- The world in which the rules of a file in a directory are loaded, when those in front of it have
been loaded. -/
def worldFor (globals : Assoc Field) (policy directory : Text) : List Text → World → Text → World
  | [], w, _ => w
  | m :: names, w, n =>
    if n = m then w
    else worldFor globals policy directory names
      (loadedFrom globals policy (joinPath directory m) w) n

theorem worldFor_noted (globals : Assoc Field) (policy directory : Text) (names : List Text)
    (w : World) (n : Text) : w.Noted (worldFor globals policy directory names w n) := by
  induction names generalizing w with
  | nil => exact .refl w
  | cons m names ih =>
    rw [worldFor]
    split
    · exact .refl w
    · exact (onlyLooks_loadFiles globals false policy [joinPath directory m] w).trans (ih _)

/-- The files of a directory are loaded one after the other, up to the first that fails. -/
theorem loadFiles_eq (globals : Assoc Field) (check : Bool) (policy directory : Text)
    {names : List Text} (hnames : names.Nodup) (w : World) :
    (loadFiles globals check policy (names.map (joinPath directory)) w).1 =
      names.mapM fun n => fileOutcome globals check policy
        (worldFor globals policy directory names w n) (joinPath directory n) := by
  induction names generalizing w with
  | nil => rfl
  | cons m names ih =>
    obtain ⟨hm, hnames⟩ := List.nodup_cons.mp hnames
    -- the files behind the first one are loaded in the world that it leaves
    have hrest : names.mapM (fun n => fileOutcome globals check policy
          (worldFor globals policy directory (m :: names) w n) (joinPath directory n)) =
        names.mapM fun n => fileOutcome globals check policy
          (worldFor globals policy directory names
            (loadedFrom globals policy (joinPath directory m) w) n) (joinPath directory n) :=
      mapM_congr fun n hn => by rw [worldFor, if_neg (ne_of_mem_of_not_mem hn hm)]
    rw [List.map_cons, loadFiles_cons, ih hnames, List.mapM_cons, hrest, worldFor, if_pos rfl]
    cases fileOutcome globals check policy w (joinPath directory m) with
    | error e => rfl
    | ok r =>
      dsimp only [Except.bind, bind]
      cases names.mapM fun n => fileOutcome globals check policy
        (worldFor globals policy directory names
          (loadedFrom globals policy (joinPath directory m) w) n) (joinPath directory n) <;> rfl

/-! ## The files of a directory -/

theorem loadDirectory_eq (globals : Assoc Field) (check : Bool) (policy : Text) {directory : Text}
    {w : World} (hdirectory : w.store.isDirectory directory = true) :
    (loadDirectory globals check policy directory w).1 =
      (loadFiles globals check policy
        ((ruleNames w.store directory).map (joinPath directory)) w).1 := by
  unfold loadDirectory
  rw [Effect.get_bind]
  simp only [hdirectory, Bool.not_true, Bool.false_eq_true, if_false, Effect.bind_apply,
    Work.ofStore, filesIn_eq hdirectory]
  dsimp only [Except.mapError]
  rcases loadFiles globals check policy ((ruleNames w.store directory).map (joinPath directory)) w
    with ⟨_ | _, _⟩ <;> rfl

/-- A directory is loaded as its files are, each when its turn comes. -/
theorem loadDirectory_eq_mapM (globals : Assoc Field) (check : Bool) (policy : Text)
    {directory : Text} {w : World} (hdirectory : w.store.isDirectory directory = true)
    (hnames : (ruleNames w.store directory).Nodup) :
    (loadDirectory globals check policy directory w).1 =
      (ruleNames w.store directory).mapM fun n => fileOutcome globals check policy
        (worldFor globals policy directory (ruleNames w.store directory) w n)
        (joinPath directory n) := by
  rw [loadDirectory_eq globals check policy hdirectory,
    loadFiles_eq globals check policy directory hnames]

theorem sound_of_loadFile {globals : Assoc Field} {policy path : Text} {w : World} {r : RuleSet}
    (h : (loadFile globals policy path w).1 = .ok r) : r.Sound := by
  obtain ⟨t, w', -, hload⟩ := Effect.of_bind_ok (Prod.ext h rfl :
    loadFile globals policy path w = (.ok r, (loadFile globals policy path w).2))
  exact sound_of_ofText (Effect.mapError_eq_ok.mp (congrArg Prod.fst hload))

/-- What loading the rules of a directory comes to, where `names` are the names of its rules files
and `outcome` is what each comes to by itself. -/
structure LoadsByName (globals : Assoc Field) (policy directory : Text) (w : World)
    (names : List Text) (outcome : Text → Except LoadError RuleSet) : Prop where
  /-- The names come in the order of their code points. -/
  sorted : names.Pairwise fun m n => Text.le m n = true ∧ m ≠ n
  /-- They are those of the files in the directory, but for names that begin with a point. -/
  mem_iff : ∀ n, n ∈ names ↔ IsName n ∧ n.head? ≠ some (.char '.') ∧
    w.store.isFile (joinPath directory n) = true
  /-- Until the turn of a file comes, nothing but messages has been left. -/
  turn : ∀ n, ∃ w', w.Noted w' ∧ outcome n = (loadFile globals policy (joinPath directory n) w').1
  /-- They do not matter to a file into which they are not written. -/
  apart : ∀ n, w.LeavesAlone (joinPath directory n) →
    outcome n = (loadFile globals policy (joinPath directory n) w).1
  /-- All is well if each file can be loaded and, where a check is asked for, nothing in it is at
  fault; the rule sets are those of the files. -/
  ok_iff : ∀ check sets, (loadDirectory globals check policy directory w).1 = .ok sets ↔
    List.Forall₂ (fun n r => outcome n = .ok r ∧ (check = true → r.fault? = none)) names sets
  /-- Otherwise the first file that cannot be loaded, or is at fault, decides, whatever the files
  behind it hold. -/
  error_iff : ∀ check e, (loadDirectory globals check policy directory w).1 = .error e ↔
    ∃ before n after, names = before ++ n :: after ∧
      (∀ m ∈ before, ∃ r, outcome m = .ok r ∧ (check = true → r.fault? = none)) ∧
      (outcome n = .error e ∨
        check = true ∧ ∃ r fault, outcome n = .ok r ∧ r.fault? = some fault ∧ e = .rules fault)
  /-- What passes the check is loaded without it too, and comes to the same. -/
  unchecked : ∀ sets, (loadDirectory globals true policy directory w).1 = .ok sets →
    (loadDirectory globals false policy directory w).1 = .ok sets
  /-- What passes the check hands out none of its own samples. -/
  known : ∀ sets, (loadDirectory globals true policy directory w).1 = .ok sets →
    ∀ (size : Int) (texts : List Text), 1 ≤ size → (∀ t ∈ texts, ∃ r ∈ sets, t ∈ r.samples) →
      ∃ received, Scan.run sets size Scan.keeping 0 (Scan.numbered (texts.map .ok)) [] =
        { state := [], taken := texts.length, received, failure := none }
  /-- Fields match their samples, whether a check is asked for or not. -/
  fields : ∀ check sets, (loadDirectory globals check policy directory w).1 = .ok sets →
    ∀ r ∈ sets, ∀ x ∈ r.fields, ∀ sample ∈ x.2.samples, x.2.regex.matchesSpan sample = true
  /-- In what can be loaded nothing but a sample line that is not known is at fault. -/
  faults : ∀ n r fault, outcome n = .ok r → r.fault? = some fault →
    ∃ line ∈ r.samples, r.knows line = false ∧ fault = ⟨r.source, .sampleLine line⟩

/-- **The rules of a directory** are loaded name by name. -/
theorem loadDirectory_by_name (globals : Assoc Field) (policy : Text) {directory : Text} {w : World}
    (hdirectory : w.store.isDirectory directory = true) :
    ∃ names outcome, LoadsByName globals policy directory w names outcome := by
  have hsorted := ruleNames_sorted w.store directory
  have heq (check : Bool) :=
    loadDirectory_eq_mapM globals check policy hdirectory (hsorted.imp And.right)
  have hnoted := worldFor_noted globals policy directory (ruleNames w.store directory) w
  obtain ⟨outcome, houtcome⟩ : ∃ outcome : Text → Except LoadError RuleSet, ∀ n, outcome n =
      (loadFile globals policy (joinPath directory n)
        (worldFor globals policy directory (ruleNames w.store directory) w n)).1 :=
    ⟨_, fun _ => rfl⟩
  have hok (check : Bool) (sets : List RuleSet) :
      (loadDirectory globals check policy directory w).1 = .ok sets ↔
        List.Forall₂ (fun n r => outcome n = .ok r ∧ (check = true → r.fault? = none))
          (ruleNames w.store directory) sets := by
    rw [heq, mapM_eq_ok_iff]
    simp only [fileOutcome_eq_ok, houtcome]
  have hsound {n : Text} {r : RuleSet} (h : outcome n = .ok r) : r.Sound :=
    sound_of_loadFile ((houtcome n).symm.trans h)
  -- each rule set comes from a file
  have hfrom {check : Bool} {sets : List RuleSet}
      (h : (loadDirectory globals check policy directory w).1 = .ok sets) :
      ∀ r ∈ sets, r.Sound ∧ (check = true → r.fault? = none) := by
    intro r hr
    obtain ⟨n, -, hload, hfault⟩ := exists_of_mem_of_forall₂ ((hok check sets).mp h) hr
    exact ⟨hsound hload, hfault⟩
  refine ⟨ruleNames w.store directory, outcome, ?_⟩
  exact {
    sorted := hsorted
    mem_iff := fun _ => mem_ruleNames
    turn := fun n => ⟨_, hnoted n, houtcome n⟩
    apart := fun n hn => (houtcome n).trans (loadFile_noted globals policy (hnoted n) hn)
    ok_iff := hok
    error_iff := fun check e => by
      rw [heq, mapM_eq_error_iff]
      simp only [fileOutcome_eq_ok, fileOutcome_eq_error, houtcome]
    unchecked := fun sets h =>
      (hok false sets).mpr (((hok true sets).mp h).imp fun _ _ hr => ⟨hr.1, fun hf => nomatch hf⟩)
    known := fun sets h size texts hsize htexts => by
      refine Scan.run_known sets hsize fun t ht => ?_
      obtain ⟨r, hr, hsample⟩ := htexts t ht
      obtain ⟨hsound, hnone⟩ := hfrom h r hr
      rw [hsound.samples t hsample, anyKnows, List.any_eq_true]
      exact ⟨r, hr, knows_of_fault?_eq_none hsound (hnone rfl) t hsample⟩
    fields := fun check sets h r hr x hx =>
      Field.badSample?_eq_none.mp ((hfrom h r hr).1.fields x hx)
    faults := fun n r fault hload hfault => sampleLine_of_fault? (hsound hload) hfault }

/-- Two rules files, a hidden file and a directory within a directory. -/
def twoRules : World :=
  { store :=
      { nodes := [(["r"], .directory), (["r", "b"], .file 0), (["r", ".x"], .file 1),
          (["r", "a"], .file 2), (["r", "c"], .directory)]
        files := [⟨1, Encoding.encode "---\nx 1\n---\n x 1\n"⟩, ⟨2, Encoding.encode "?"⟩,
          ⟨3, Encoding.encode
            "field n \x7bpattern = `y+` template = 'y' samples = ['yy']\x7d\n---\ny\n"⟩] } }

theorem loadDirectory_by_name_two :
    twoRules.store.isDirectory "r" = true ∧
      (loadDirectory [] true "warn" "r" twoRules).1.isOk = true ∧
      ∃ names outcome, LoadsByName [] "warn" "r" twoRules names outcome := by
  have hdirectory : twoRules.store.isDirectory "r" = true := by decide
  have hloads : (loadDirectory [] true "warn" "r" twoRules).1.isOk = true := by decide +kernel
  exact ⟨hdirectory, hloads, loadDirectory_by_name [] "warn" hdirectory⟩

end RuleSet

end LineSift
