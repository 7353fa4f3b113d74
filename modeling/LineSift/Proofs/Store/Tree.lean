import LineSift.Proofs.Text.Replace
import LineSift.Store.Basic
import Mathlib.Data.List.Induction

/-!
# The tree of a store

What stands at a place stands in a directory, a file stands at one place only, and the working
directory is named properly (`Store.Tree`).  A path is followed through directories, so it leads to
the same place as long as no directory is taken away (`resolve_mono`), whatever files hold
(`fileAt_appendBytes`), and what it leads to has a directory above it (`Tree.resolve_parent`).  What
runs begin with is a store that carries this with it (`FileTree`).
-/

namespace LineSift

namespace Store

/-- Whether a store is a tree. -/
structure Tree (s : Store) : Prop where
  parent : ∀ {p n}, s.node? p = some n → s.node? p.dropLast = some .directory
  stored : ∀ {p id}, s.node? p = some (.file id) → id < s.files.length
  single : ∀ {p q id}, s.node? p = some (.file id) → s.node? q = some (.file id) → p = q
  working : ∀ n ∈ s.working, IsName n

@[simp] theorem node?_nil (s : Store) : s.node? [] = some .directory := if_pos rfl

theorem node?_of_ne {p : Place} (h : p ≠ []) (s : Store) : s.node? p = s.nodes.lookup p := if_neg h

theorem lookup_cons (q p : Place) (n : Node) (nodes : List (Place × Node)) :
    ((p, n) :: nodes).lookup q = if q = p then some n else nodes.lookup q := by
  rw [List.lookup_cons]
  by_cases h : q = p
  · simp [h]
  · simp [h, beq_eq_false_iff_ne.mpr h]

theorem mem_of_lookup {nodes : List (Place × Node)} {p : Place} {n : Node}
    (h : nodes.lookup p = some n) : (p, n) ∈ nodes := by
  induction nodes with
  | nil => cases h
  | cons x nodes ih =>
    obtain ⟨q, m⟩ := x
    rw [lookup_cons] at h
    split at h
    · next he =>
      rw [he, Option.some.inj h]
      exact List.mem_cons_self
    · exact List.mem_cons_of_mem _ (ih h)

theorem lookup_filter_ne {p q : Place} (h : q ≠ p) (nodes : List (Place × Node)) :
    (nodes.filter (·.1 ≠ p)).lookup q = nodes.lookup q := by
  induction nodes with
  | nil => rfl
  | cons x nodes ih =>
    obtain ⟨r, n⟩ := x
    by_cases hr : r = p
    · have hq : ¬ q = r := fun he => h (he.trans hr)
      rw [List.filter_cons_of_neg (by simp [hr]), lookup_cons, if_neg hq]
      exact ih
    · rw [List.filter_cons_of_pos (by simp [hr]), lookup_cons, lookup_cons, ih]

theorem lookup_filter_self (p : Place) (nodes : List (Place × Node)) :
    (nodes.filter (·.1 ≠ p)).lookup p = none := by
  rw [List.lookup_eq_none_iff]
  intro x hx
  have hne : x.1 ≠ p := by simpa using (List.mem_filter.mp hx).2
  simpa using Ne.symm hne

theorem node?_put {p : Place} (hp : p ≠ []) (s : Store) (n : Node) (q : Place) :
    (s.put p n).node? q = if q = p then some n else s.node? q := by
  by_cases hq : q = []
  · have hne : ¬ q = p := fun he => hp (he ▸ hq)
    rw [if_neg hne, hq, node?_nil, node?_nil]
  · rw [node?_of_ne hq, node?_of_ne hq, put, List.lookup_append]
    by_cases he : q = p
    · subst he
      rw [if_pos rfl, lookup_filter_self]
      simp
    · rw [if_neg he, lookup_filter_ne he, lookup_cons, if_neg he]
      simp

/-- A file that is changed, and the others, which are not. -/
theorem file_modify (s : Store) (id : Nat) (change : File → File) (k : Nat) :
    ({ s with files := s.files.modify id change } : Store).file k =
      if k = id ∧ k < s.files.length then change (s.file k) else s.file k := by
  unfold file
  rw [List.getD_eq_getElem?_getD, List.getD_eq_getElem?_getD, List.getElem?_modify]
  by_cases hk : k < s.files.length
  · by_cases he : k = id
    · subst he
      simp [hk]
    · simp [hk, he, Ne.symm he]
  · simp [hk]

theorem file_setBytes (s : Store) (id : Nat) (bytes : Bytes) (k : Nat) :
    (s.setBytes id bytes).file k =
      if k = id ∧ k < s.files.length then { s.file k with bytes } else s.file k :=
  file_modify s id _ k

theorem file_appendBytes (s : Store) (id : Nat) (bytes : Bytes) (k : Nat) :
    (s.appendBytes id bytes).file k =
      if k = id ∧ k < s.files.length then ⟨(s.file k).inode, (s.file k).bytes ++ bytes⟩
      else s.file k :=
  file_modify s id _ k

theorem appendBytes_nil (s : Store) (k : Nat) : s.appendBytes k [] = s := by
  have hsame : (fun f : File => { f with bytes := f.bytes ++ [] }) = id := by
    funext f
    rw [List.append_nil, id]
  rw [appendBytes, hsame, List.modify_id]

theorem appendBytes_appendBytes (s : Store) (id : Nat) (a b : Bytes) :
    (s.appendBytes id a).appendBytes id b = s.appendBytes id (a ++ b) := by
  simp only [appendBytes, List.modify_modify_eq, Function.comp_def, List.append_assoc]

/-- Whether a store is a tree can be computed from what stands at the places that are taken. -/
theorem Tree.of_nodes {s : Store}
    (hparent : ∀ x ∈ s.nodes, s.node? x.1.dropLast = some .directory)
    (hstored : ∀ x ∈ s.nodes, x.2 ∈ .directory :: (List.range s.files.length).map .file)
    (hsingle : ∀ x ∈ s.nodes, ∀ y ∈ s.nodes, x.2 = y.2 → x.2 ≠ .directory → x.1 = y.1)
    (hworking : ∀ n ∈ s.working, IsName n) : s.Tree := by
  have hmem {p : Place} {n : Node} (h : s.node? p = some n) :
      p = [] ∧ n = .directory ∨ (p, n) ∈ s.nodes := by
    unfold node? at h
    split at h
    · next hp => exact Or.inl ⟨hp, (Option.some.inj h).symm⟩
    · exact Or.inr (mem_of_lookup h)
  have hfile {p : Place} {id : Nat} (h : s.node? p = some (.file id)) :
      (p, .file id) ∈ s.nodes := by
    rcases hmem h with ⟨-, he⟩ | hx
    · cases he
    · exact hx
  constructor
  · intro p n hp
    rcases hmem hp with ⟨rfl, -⟩ | hx
    · exact node?_nil s
    · exact hparent _ hx
  · intro p id hp
    have := hstored _ (hfile hp)
    simpa using this
  · intro p q id hp hq
    exact hsingle _ (hfile hp) _ (hfile hq) rfl (by simp)
  · exact hworking

/-! ## Following paths -/

/-- A step is taken from a directory, and its target does not depend on the store. -/
theorem step_eq_ok {s : Store} {p q : Place} {name : Text} (h : s.step p name = .ok q) :
    s.node? p = some .directory ∧ q = stepName p name := by
  unfold step at h
  split at h
  · cases h
  · cases h
  · next hp =>
    refine ⟨hp, ?_⟩
    unfold stepName
    split at h
    · next hd =>
      rw [if_pos hd]
      exact (Except.ok.inj h).symm
    · next hd =>
      rw [if_neg hd]
      split at h
      · next hdd =>
        rw [if_pos hdd]
        exact (Except.ok.inj h).symm
      · next hdd =>
        rw [if_neg hdd]
        split at h
        · cases h
        · exact (Except.ok.inj h).symm

theorem step_mono {s s' : Store} {p q : Place} {name : Text} (h : s.step p name = .ok q)
    (hp : s'.node? p = some .directory) : s'.step p name = .ok q := by
  have hs := (step_eq_ok h).1
  unfold step at h ⊢
  rw [hs] at h
  rw [hp]
  exact h

/-- Following names, one step for each. -/
theorem follow_cons {s : Store} {p r : Place} {name : Text} {names : List Text} :
    (name :: names).foldlM s.step p = .ok r ↔
      ∃ q, s.step p name = .ok q ∧ names.foldlM s.step q = .ok r := by
  rw [List.foldlM_cons]
  cases s.step p name with
  | error e => simp [bind, Except.bind]
  | ok q => simp [bind, Except.bind]

theorem follow_append {s : Store} {p r : Place} {names more : List Text} :
    (names ++ more).foldlM s.step p = .ok r ↔
      ∃ q, names.foldlM s.step p = .ok q ∧ more.foldlM s.step q = .ok r := by
  rw [List.foldlM_append]
  cases names.foldlM s.step p with
  | error e => simp [bind, Except.bind]
  | ok q => simp [bind, Except.bind]

theorem follow_mono {s s' : Store} {names : List Text} {p q : Place}
    (hdirs : ∀ p, s.node? p = some .directory → s'.node? p = some .directory)
    (h : names.foldlM s.step p = .ok q) : names.foldlM s'.step p = .ok q := by
  induction names generalizing p with
  | nil => exact h
  | cons name names ih =>
    obtain ⟨r, hr, hrest⟩ := follow_cons.mp h
    exact follow_cons.mpr ⟨r, step_mono hr (hdirs p (step_eq_ok hr).1), ih hrest⟩

/-- Where names lead does not depend on the store, if they lead anywhere. -/
theorem follow_eq {s : Store} {names : List Text} {p q : Place}
    (h : names.foldlM s.step p = .ok q) : q = names.foldl stepName p := by
  induction names generalizing p with
  | nil => exact (Except.ok.inj h).symm
  | cons name names ih =>
    obtain ⟨r, hr, hrest⟩ := follow_cons.mp h
    rw [List.foldl_cons, ← (step_eq_ok hr).2]
    exact ih hrest

theorem resolve_eq_ok {s : Store} {path : Text} {p : Place} :
    s.resolve path = .ok p ↔
      pathRefusal? path = none ∧ (nameList path).foldlM s.step (s.origin path) = .ok p := by
  unfold resolve
  split
  · next r hr => simp [hr]
  · next hr => simp [hr]

/-- A path leads to the same place as long as no directory is taken away. -/
theorem resolve_mono {s s' : Store} {path : Text} {p : Place} (hwork : s'.working = s.working)
    (hdirs : ∀ p, s.node? p = some .directory → s'.node? p = some .directory)
    (h : s.resolve path = .ok p) : s'.resolve path = .ok p := by
  obtain ⟨hpath, hfollow⟩ := resolve_eq_ok.mp h
  have horigin : s'.origin path = s.origin path := by
    rw [origin, origin, hwork]
  exact resolve_eq_ok.mpr ⟨hpath, horigin ▸ follow_mono hdirs hfollow⟩

theorem fileAt_eq_ok {s : Store} {path : Text} {id : Nat} :
    s.fileAt path = .ok id ↔ ∃ p, s.resolve path = .ok p ∧ s.node? p = some (.file id) := by
  unfold fileAt
  cases s.resolve path with
  | error r => simp
  | ok p =>
    dsimp only
    split <;> simp_all

/-- Paths lead where they led when a file grows. -/
theorem resolve_appendBytes (s : Store) (id : Nat) (bytes : Bytes) (path : Text) :
    (s.appendBytes id bytes).resolve path = s.resolve path := by
  have hstep : (s.appendBytes id bytes).step = s.step := rfl
  have horigin : (s.appendBytes id bytes).origin path = s.origin path := rfl
  unfold resolve
  rw [hstep, horigin]

@[simp] theorem fileAt_appendBytes (s : Store) (id : Nat) (bytes : Bytes) (path : Text) :
    (s.appendBytes id bytes).fileAt path = s.fileAt path := by
  have hnode : (s.appendBytes id bytes).node? = s.node? := rfl
  unfold fileAt
  rw [resolve_appendBytes, hnode]

@[simp] theorem found_appendBytes (s : Store) (id : Nat) (bytes : Bytes) (path : Text) :
    (s.appendBytes id bytes).found path = s.found path := by
  have hnode : (s.appendBytes id bytes).node? = s.node? := rfl
  unfold found find?
  rw [resolve_appendBytes, hnode]

namespace Tree

variable {s : Store}

theorem step_parent (hs : s.Tree) {p q : Place} {name : Text} (h : s.step p name = .ok q) :
    s.node? q.dropLast = some .directory := by
  obtain ⟨hp, rfl⟩ := step_eq_ok h
  unfold stepName
  split
  · exact hs.parent hp
  · split
    · exact hs.parent (hs.parent hp)
    · rw [List.dropLast_concat]
      exact hp

theorem follow_parent (hs : s.Tree) {names : List Text} {p q : Place}
    (hp : s.node? p.dropLast = some .directory) (h : names.foldlM s.step p = .ok q) :
    s.node? q.dropLast = some .directory := by
  induction names generalizing p with
  | nil =>
    obtain rfl := Except.ok.inj h
    exact hp
  | cons name names ih =>
    obtain ⟨r, hr, hrest⟩ := follow_cons.mp h
    exact ih (hs.step_parent hr) hrest

/-- What a path leads to has a directory above it. -/
theorem resolve_parent (hs : s.Tree) {path : Text} {p : Place} (h : s.resolve path = .ok p) :
    s.node? p.dropLast = some .directory := by
  obtain ⟨-, hfollow⟩ := resolve_eq_ok.mp h
  cases hnames : nameList path with
  | nil => exact absurd hnames (Text.splitFrom_ne_nil _ _ _)
  | cons name names =>
    rw [hnames] at hfollow
    obtain ⟨q, hq, hrest⟩ := follow_cons.mp hfollow
    exact hs.follow_parent (hs.step_parent hq) hrest

/-- Nothing stands below a file. -/
theorem below_file (hs : s.Tree) {p : Place} {id : Nat} (hp : s.node? p = some (.file id))
    {t : Place} (ht : t ≠ []) : s.node? (p ++ t) = none := by
  induction t using List.reverseRecOn with
  | nil => exact absurd rfl ht
  | append_singleton t n ih =>
    cases hn : s.node? (p ++ (t ++ [n])) with
    | none => rfl
    | some m =>
      have hparent := hs.parent hn
      rw [← List.append_assoc, List.dropLast_concat] at hparent
      by_cases hnil : t = []
      · rw [hnil, List.append_nil, hp] at hparent
        cases hparent
      · rw [ih hnil] at hparent
        cases hparent

/-- A directory more in a directory. -/
theorem put_directory (hs : s.Tree) {p : Place} (hnew : s.node? p = none)
    (hparent : s.node? p.dropLast = some .directory) : (s.put p .directory).Tree := by
  have hp : p ≠ [] := by
    rintro rfl
    rw [node?_nil] at hnew
    cases hnew
  have hold {q : Place} {n : Node} (hq : s.node? q = some n) :
      (s.put p .directory).node? q = some n := by
    have hne : ¬ q = p := by
      rintro rfl
      rw [hnew] at hq
      cases hq
    rw [node?_put hp, if_neg hne, hq]
  have hfile {q : Place} {id : Nat} (hq : (s.put p .directory).node? q = some (.file id)) :
      s.node? q = some (.file id) := by
    rw [node?_put hp] at hq
    split at hq
    · cases hq
    · exact hq
  constructor
  · intro q n hq
    rw [node?_put hp] at hq
    split at hq
    · next he =>
      rw [he]
      exact hold hparent
    · exact hold (hs.parent hq)
  · exact fun hq => hs.stored (hfile hq)
  · exact fun hq hr => hs.single (hfile hq) (hfile hr)
  · exact hs.working

end Tree

end Store

/-- A store that is a tree.  Where one is written down, that it is a tree is computed from what
stands at its places (`Store.Tree.of_nodes`). -/
structure FileTree extends Store where
  tree : toStore.Tree

namespace FileTree

instance : Coe FileTree Store := ⟨FileTree.toStore⟩

/-- The tree with nothing in it. -/
def empty : FileTree where
  tree := by apply Store.Tree.of_nodes <;> simp

/-- The tree with other files in the same places. -/
def withFiles (s : FileTree) (files : List File) (h : files.length = s.files.length) :
    FileTree where
  toStore := { s.toStore with files }
  tree := by
    refine ⟨s.tree.parent, fun hp => ?_, s.tree.single, s.tree.working⟩
    rw [h]
    exact s.tree.stored hp

end FileTree

end LineSift
