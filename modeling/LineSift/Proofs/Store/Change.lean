import LineSift.Proofs.Effect
import LineSift.Proofs.Store.Tree

/-!
# What changes of a store leave as it is

Making directories adds directories and nothing else, whether it succeeds or not
(`makeDirectories_grown`).  Writing a file puts bytes into the file at one place (`overwrite_ok`).
A store that is a tree remains one.
-/

namespace LineSift.Store

/-- Directories were added to a store, and nothing else has happened to it. -/
structure Grown (s s' : Store) : Prop where
  files : s'.files = s.files
  working : s'.working = s.working
  old : ∀ {p n}, s.node? p = some n → s'.node? p = some n
  new : ∀ {p n}, s'.node? p = some n → s.node? p = some n ∨ n = .directory
  tree : s.Tree → s'.Tree

namespace Grown

variable {s s' s'' : Store}

theorem refl (s : Store) : Grown s s := ⟨rfl, rfl, id, Or.inl, id⟩

theorem trans (h : Grown s s') (h' : Grown s' s'') : Grown s s'' where
  files := h'.files.trans h.files
  working := h'.working.trans h.working
  old := fun hp => h'.old (h.old hp)
  new := fun hp => (h'.new hp).elim h.new Or.inr
  tree := fun hs => h'.tree (h.tree hs)

end Grown

/-- A place that is not taken is not the root. -/
theorem ne_nil_of_node? {s : Store} {p : Place} (h : s.node? p = none) : p ≠ [] := by
  rintro rfl
  rw [node?_nil] at h
  cases h

theorem put_grown {s : Store} {path : Text} {p : Place} (hp : s.resolve path = .ok p)
    (hnew : s.node? p = none) : Grown s (s.put p .directory) where
  files := rfl
  working := rfl
  old := by
    intro q n hq
    have hne : ¬ q = p := by
      rintro rfl
      rw [hnew] at hq
      cases hq
    rw [node?_put (ne_nil_of_node? hnew), if_neg hne, hq]
  new := by
    intro q n hq
    rw [node?_put (ne_nil_of_node? hnew)] at hq
    split at hq
    · exact Or.inr (Option.some.inj hq).symm
    · exact Or.inl hq
  tree := fun hs => hs.put_directory hnew (hs.resolve_parent hp)

theorem makeDirectory_apply (path : Text) (s : Store) :
    makeDirectory path s =
      match s.resolve (if trimSlashes path = [] then path else trimSlashes path) with
      | .error r => (.error ⟨r, [path]⟩, s)
      | .ok p =>
        if (s.node? p).isSome then (.error ⟨.alreadyThere, [path]⟩, s)
        else (.ok (), s.put p .directory) := by
  unfold makeDirectory
  rw [Effect.get_bind]
  dsimp only
  cases s.resolve (if trimSlashes path = [] then path else trimSlashes path) with
  | error r => rfl
  | ok p =>
    dsimp only
    by_cases h : (s.node? p).isSome
    · rw [if_pos h, if_pos h]
      rfl
    · rw [if_neg h, if_neg h]
      rfl

theorem makeDirectory_grown (path : Text) : Effect.Within Grown (makeDirectory path) := by
  intro s
  rw [makeDirectory_apply]
  split
  · exact .refl s
  · next hp =>
    split
    · exact .refl s
    · next hn => exact put_grown hp (by simpa using hn)

/-- What making one directory keeps to, making it with those above it keeps to as well, if it can be
told of a path from the path of the directory above. -/
theorem makeDirectories_within {R : Text → Store → Store → Prop} (hrefl : ∀ path s, R path s s)
    (htrans : ∀ path {a b c}, R path a b → R path b c → R path a c)
    (habove : ∀ path {s s'}, (parentPath path).1 ≠ [] → R (parentPath path).1 s s' → R path s s')
    (hmake : ∀ path, Effect.Within (R path) (makeDirectory path)) (path : Text) :
    Effect.Within (R path) (makeDirectories path) := by
  have hone (path : Text) : Effect.Within (R path) (ensureDirectory path) := by
    intro s
    have h := hmake path s
    unfold ensureDirectory
    split
    · next heq =>
      rw [heq] at h
      exact h
    · exact h
  have hall (n : Nat) (path : Text) : Effect.Within (R path) (ensureDirectories n path) := by
    induction n generalizing path with
    | zero => exact hone path
    | succ n ih =>
      unfold ensureDirectories
      refine Effect.Within.bind (R := R path) (htrans path)
        (Effect.within_get (hrefl path)) fun s => ?_
      dsimp only
      split
      · next hhead =>
        have hup : Effect.Within (R path) (ensureDirectories n (parentPath path).1) :=
          fun s => habove path hhead.1 (ih _ s)
        refine Effect.Within.bind (R := R path) (htrans path)
          (Effect.Within.tryCatch (R := R path) (htrans path) hup fun e => ?_) fun _ => ?_
        · split
          · exact Effect.within_pure (hrefl path) _
          · exact Effect.within_throw (hrefl path) _
        · split
          · exact Effect.within_pure (hrefl path) _
          · exact hone path
      · exact hone path
  exact hall path.length path

/-- **Making directories** adds directories, and does nothing else. -/
theorem makeDirectories_grown (path : Text) : Effect.Within Grown (makeDirectories path) :=
  makeDirectories_within (R := fun _ => Grown) (fun _ => .refl) (fun _ _ _ _ => .trans)
    (fun _ _ _ _ h => h) makeDirectory_grown path

/-! ## Writing a file -/

/-- The file at a place was given other bytes, and made before if there was none. -/
structure Written (s s' : Store) (p : Place) (id : Nat) (bytes : Bytes) : Prop where
  fresh : s.node? p = some (.file id) ∨ s.node? p = none ∧ id = s.files.length
  node : ∀ q, s'.node? q = if q = p then some (.file id) else s.node? q
  working : s'.working = s.working
  bytes : (s'.file id).bytes = bytes
  other : ∀ k, k ≠ id → k < s.files.length → s'.file k = s.file k
  tree : s'.Tree

theorem Written.directory {s s' : Store} {p : Place} {id : Nat} {bytes : Bytes}
    (h : Written s s' p id bytes) {q : Place} (hq : s.node? q = some .directory) :
    s'.node? q = some .directory := by
  have hne : ¬ q = p := by
    rintro rfl
    rcases h.fresh with hn | ⟨hn, -⟩ <;> rw [hn] at hq <;> cases hq
  rw [h.node, if_neg hne, hq]

theorem Tree.add_file {s : Store} (hs : s.Tree) {p : Place} (hnew : s.node? p = none)
    (hparent : s.node? p.dropLast = some .directory) (f : File) : (s.addFile p f).Tree := by
  have hnode (q : Place) : (s.addFile p f).node? q =
      if q = p then some (.file s.files.length) else s.node? q :=
    node?_put (ne_nil_of_node? hnew) s _ q
  have hlen : (s.addFile p f).files.length = s.files.length + 1 := List.length_append
  have hdir {q : Place} (hq : s.node? q = some .directory) :
      (s.addFile p f).node? q = some .directory := by
    have hne : ¬ q = p := by
      rintro rfl
      rw [hnew] at hq
      cases hq
    rw [hnode, if_neg hne, hq]
  constructor
  · intro q n hq
    rw [hnode] at hq
    split at hq
    · next he =>
      rw [he]
      exact hdir hparent
    · exact hdir (hs.parent hq)
  · intro q id hq
    rw [hnode] at hq
    split at hq
    · cases hq
      omega
    · have := hs.stored hq
      omega
  · intro q r id hq hr
    rw [hnode] at hq hr
    split at hq
    · next hqp =>
      cases hq
      split at hr
      · next hrp => rw [hqp, hrp]
      · exact absurd (hs.stored hr) (Nat.lt_irrefl _)
    · split at hr
      · cases hr
        exact absurd (hs.stored hq) (Nat.lt_irrefl _)
      · exact hs.single hq hr
  · exact hs.working

/-- What files hold does not matter for the tree. -/
theorem Tree.modify_file {s : Store} (hs : s.Tree) (id : Nat) (change : File → File) :
    Tree { s with files := s.files.modify id change } where
  parent := hs.parent
  stored := by
    intro p k hp
    have hlen : (s.files.modify id change).length = s.files.length := List.length_modify ..
    exact Nat.lt_of_lt_of_eq (hs.stored hp) hlen.symm
  single := hs.single
  working := hs.working

theorem file_addFile (s : Store) (p : Place) (f : File) {k : Nat} (hk : k < s.files.length) :
    (s.addFile p f).file k = s.file k := by
  unfold file addFile
  rw [List.getD_eq_getElem?_getD, List.getD_eq_getElem?_getD, List.getElem?_append_left hk]

/-- Opening a file for writing finds it or makes it. -/
theorem openForWriting_ok {path : Text} {s s' : Store} {id : Nat}
    (h : openForWriting path s = (.ok id, s')) :
    ∃ p, s.resolve path = .ok p ∧
      (s.node? p = some (.file id) ∧ s' = s ∨
        s.node? p = none ∧ id = s.files.length ∧
          s' = { s.addFile p ⟨s.nextInode, []⟩ with nextInode := s.nextInode + 1 }) := by
  unfold openForWriting at h
  rw [Effect.get_bind] at h
  cases hp : s.resolve path with
  | error r =>
    rw [hp] at h
    cases h
  | ok p =>
    rw [hp] at h
    dsimp only at h
    refine ⟨p, rfl, ?_⟩
    cases hn : s.node? p with
    | none =>
      rw [hn] at h
      dsimp only at h
      split at h
      · cases h
      · cases h
        exact Or.inr ⟨rfl, rfl, rfl⟩
    | some n =>
      rw [hn] at h
      cases n with
      | directory => cases h
      | file k =>
        cases h
        exact Or.inl ⟨rfl, rfl⟩

/-- All directories and files are there as before, and there may be more of them. -/
structure Kept (s s' : Store) : Prop where
  tree : s'.Tree
  working : s'.working = s.working
  directories : ∀ {p}, s.node? p = some .directory → s'.node? p = some .directory
  files : ∀ {p id}, s.node? p = some (.file id) →
    s'.node? p = some (.file id) ∧ s'.file id = s.file id

theorem Kept.refl {s : Store} (hs : s.Tree) : Kept s s :=
  ⟨hs, rfl, fun hp => hp, fun hp => ⟨hp, rfl⟩⟩

theorem Kept.fileAt {s s' : Store} (h : Kept s s') {path : Text} {id : Nat}
    (hf : s.fileAt path = .ok id) : s'.fileAt path = .ok id ∧ s'.file id = s.file id := by
  obtain ⟨p, hp, hn⟩ := fileAt_eq_ok.mp hf
  obtain ⟨hn', hfile⟩ := h.files hn
  exact ⟨fileAt_eq_ok.mpr ⟨p, resolve_mono h.working (fun _ => h.directories) hp, hn'⟩, hfile⟩

theorem openForWriting_kept {s s' : Store} (hs : s.Tree) {path : Text} {id : Nat}
    (h : openForWriting path s = (.ok id, s')) : Kept s s' := by
  obtain ⟨p, hp, ⟨-, rfl⟩ | ⟨hn, -, rfl⟩⟩ := openForWriting_ok h
  · exact .refl hs
  · have hadd := hs.add_file hn (hs.resolve_parent hp) ⟨s.nextInode, []⟩
    have hnode (q : Place) : (s.addFile p ⟨s.nextInode, []⟩).node? q =
        if q = p then some (.file s.files.length) else s.node? q :=
      node?_put (ne_nil_of_node? hn) s _ q
    have hold {q : Place} {n : Node} (hq : s.node? q = some n) :
        (s.addFile p ⟨s.nextInode, []⟩).node? q = some n := by
      rw [hnode, if_neg, hq]
      rintro rfl
      rw [hn] at hq
      cases hq
    exact ⟨⟨hadd.parent, hadd.stored, hadd.single, hadd.working⟩, rfl, hold,
      fun hq => ⟨hold hq, file_addFile s p _ (hs.stored hq)⟩⟩

/-- **Writing a file** puts bytes into the file that its path leads to. -/
theorem overwrite_ok {s s' : Store} (hs : s.Tree) {path : Text} {bytes : Bytes}
    (h : overwrite path bytes s = (.ok (), s')) :
    ∃ p id, s.resolve path = .ok p ∧ Written s s' p id bytes := by
  unfold overwrite at h
  obtain ⟨id, s₁, hopen, hset⟩ := Effect.of_bind_ok h
  cases hset
  have hmade := (openForWriting_kept hs hopen).tree
  obtain ⟨p, hp, ⟨hn, rfl⟩ | ⟨hn, rfl, rfl⟩⟩ := openForWriting_ok hopen
  · refine ⟨p, id, hp, Or.inl hn, ?_, rfl, ?_, ?_, hs.modify_file id _⟩
    · intro q
      split
      · next he =>
        rw [he]
        exact hn
      · rfl
    · rw [file_setBytes, if_pos ⟨rfl, hs.stored hn⟩]
    · intro k hk hlt
      rw [file_setBytes, if_neg (by simp [hk])]
  · have hlen : (s.addFile p ⟨s.nextInode, []⟩).files.length = s.files.length + 1 :=
      List.length_append
    refine ⟨p, s.files.length, hp, Or.inr ⟨hn, rfl⟩, node?_put (ne_nil_of_node? hn) s _, rfl, ?_,
      ?_, hmade.modify_file _ _⟩
    · rw [file_setBytes, if_pos ⟨rfl, by rw [hlen]; omega⟩]
    · intro k hk hlt
      rw [file_setBytes, if_neg (by simp [hk])]
      exact file_addFile s p _ hlt

end LineSift.Store
