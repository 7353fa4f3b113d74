import LineSift.Proofs.Store.Way

/-!
# What replacing a file spares

Replacing a file goes through several operations, and each of them can be refused.  However far it
comes, it makes directories on the way, it touches the temporary file, and only if it succeeds it
touches the file itself: everything else is spared (`replaceFile_spared`).  So another file of the
same directory is found as it was (`Spared.find?_joinPath`).
-/

namespace LineSift.Store

open Text (ofString)

/-- Outside of the places that are touched, directories on the way of a path were made, and nothing
else has happened to the store. -/
structure Spared (directory : Text) (touched : Place → Prop) (s s' : Store) : Prop where
  tree : s.Tree → s'.Tree
  working : s'.working = s.working
  directories : ∀ {p}, s.node? p = some .directory → s'.node? p = some .directory
  old : ∀ {p id}, ¬ touched p → s.node? p = some (.file id) →
    s'.node? p = some (.file id) ∧ s'.file id = s.file id
  new : ∀ {p}, ¬ touched p → s'.node? p ≠ none →
    s.node? p ≠ none ∨ s'.node? p = some .directory ∧ s.OnTheWay directory p

namespace Spared

variable {directory : Text} {touched touched' : Place → Prop} {s s' s'' : Store}

theorem refl (directory : Text) (touched : Place → Prop) (s : Store) :
    Spared directory touched s s where
  tree := id
  working := rfl
  directories := id
  old := fun _ hp => ⟨hp, rfl⟩
  new := fun _ => Or.inl

theorem mono (h : Spared directory touched s s') (hmore : ∀ {p}, touched p → touched' p) :
    Spared directory touched' s s' where
  tree := h.tree
  working := h.working
  directories := h.directories
  old := fun hp => h.old fun ht => hp (hmore ht)
  new := fun hp => h.new fun ht => hp (hmore ht)

theorem trans (h : Spared directory touched s s') (h' : Spared directory touched s' s'') :
    Spared directory touched s s'' where
  tree := fun hs => h'.tree (h.tree hs)
  working := h'.working.trans h.working
  directories := fun hp => h'.directories (h.directories hp)
  old := by
    intro p id hp hn
    obtain ⟨hn', hf'⟩ := h.old hp hn
    obtain ⟨hn'', hf''⟩ := h'.old hp hn'
    exact ⟨hn'', hf''.trans hf'⟩
  new := by
    intro p hp hn
    rcases h'.new hp hn with hn' | ⟨hdir, hway⟩
    · rcases h.new hp hn' with hn | ⟨hdir, hway⟩
      · exact Or.inl hn
      · exact Or.inr ⟨h'.directories hdir, hway⟩
    · exact Or.inr ⟨hdir, (onTheWay_iff h.working).mp hway⟩

end Spared

theorem Grown.file {s s' : Store} (h : Grown s s') (id : Nat) : s'.file id = s.file id := by
  unfold Store.file
  rw [h.files]

theorem Paved.spared {directory : Text} {s s' : Store} (h : Paved directory s s')
    (touched : Place → Prop) : Spared directory touched s s' where
  tree := h.tree
  working := h.working
  directories := h.old
  old := fun _ hn => ⟨h.old hn, h.file _⟩
  new := by
    intro p _ hn
    obtain ⟨n, hn'⟩ := Option.ne_none_iff_exists'.mp hn
    rcases h.new hn' with hold | rfl
    · exact Or.inl (by rw [hold]; simp)
    · exact (h.way p hn).imp_right fun hway => ⟨hn', hway⟩

theorem Written.spared {s s' : Store} {p : Place} {id : Nat} {bytes : Bytes} (hs : s.Tree)
    (h : Written s s' p id bytes) (directory : Text) : Spared directory (· = p) s s' where
  tree := fun _ => h.tree
  working := h.working
  directories := h.directory
  old := by
    intro q k hq hn
    have hk : k ≠ id := by
      rintro rfl
      rcases h.fresh with hp | ⟨-, hid⟩
      · exact hq (hs.single hn hp)
      · exact absurd (hs.stored hn) (by omega)
    refine ⟨?_, h.other k hk (hs.stored hn)⟩
    rw [h.node, if_neg hq, hn]
  new := by
    intro q hq hn
    rw [h.node, if_neg hq] at hn
    exact Or.inl hn

theorem Tree.move_spared {s : Store} (hs : s.Tree) {source target : Place} {id : Nat}
    (hsource : s.node? source = some (.file id)) (hne : source ≠ target)
    (htarget : s.node? target ≠ some .directory)
    (hparent : s.node? target.dropLast = some .directory) (directory : Text) :
    Spared directory (fun p => p = source ∨ p = target) s (s.move source target) where
  tree := fun _ => hs.move hsource hne htarget hparent
  working := rfl
  directories := hs.directory_move hsource hne htarget
  old := by
    intro p k hp hn
    rw [not_or] at hp
    refine ⟨?_, rfl⟩
    rw [hs.node?_move hsource hne htarget, if_neg hp.2, if_neg hp.1, hn]
  new := by
    intro p hp hn
    rw [not_or] at hp
    rw [hs.node?_move hsource hne htarget, if_neg hp.2, if_neg hp.1] at hn
    exact Or.inl hn

/-! ## Operations that are refused -/

theorem openForWriting_error {path : Text} {s s' : Store} {e : Error}
    (h : openForWriting path s = (.error e, s')) : s' = s := by
  unfold openForWriting at h
  rw [Effect.get_bind] at h
  cases hp : s.resolve path with
  | error r =>
    rw [hp] at h
    cases h
    rfl
  | ok p =>
    rw [hp] at h
    dsimp only at h
    cases hn : s.node? p with
    | none =>
      rw [hn] at h
      dsimp only at h
      split at h <;> cases h
      rfl
    | some n =>
      rw [hn] at h
      cases n <;> cases h
      rfl

theorem overwrite_error {path : Text} {bytes : Bytes} {s s' : Store} {e : Error}
    (h : overwrite path bytes s = (.error e, s')) : s' = s := by
  unfold overwrite at h
  rw [Effect.bind_apply] at h
  split at h
  · cases h
  · next hopen =>
    cases h
    exact openForWriting_error hopen

theorem rename_error {source target : Text} {s s' : Store} {e : Error}
    (h : rename source target s = (.error e, s')) : s' = s := by
  unfold rename at h
  rw [Effect.get_bind] at h
  cases hm : s.moved source target with
  | error r =>
    rw [hm] at h
    cases h
    rfl
  | ok pq =>
    rw [hm] at h
    dsimp only at h
    split at h <;> cases h

/-! ## Replacing a file -/

section Replacing

variable {s s' : Store} {directory name : Text} {bytes : Bytes}

theorem joinPath_temporary (directory : Text) (hslash : slash ∉ name) :
    joinPath directory name ++ ofString ".tmp" = joinPath directory (temporary name) := by
  have hhead {n : Text} (h : slash ∉ n) : ¬ n.head? = some slash := fun he =>
    h (List.mem_of_mem_head? he)
  unfold joinPath
  rw [if_neg (hhead hslash), if_neg (hhead (slash_not_mem_temporary hslash))]
  split <;> simp [temporary]

/-- **However far replacing a file comes**, it touches nothing but the temporary file, and the file
itself if it succeeds. -/
theorem replaceFile_spared (hs : s.Tree) (hslash : slash ∉ name)
    (hproper : isProperName name = true) {r : Except Error Unit}
    (h : replaceFile directory (joinPath directory name) bytes s = (r, s')) :
    Spared directory (fun p => p = s.spelled directory ++ [temporary name] ∨
      r = .ok () ∧ p = s.spelled directory ++ [name]) s s' := by
  have hslash' := slash_not_mem_temporary hslash
  have hproper' := isProperName_temporary name
  have hpaved := makeDirectories_paved directory s
  unfold replaceFile at h
  rw [joinPath_temporary directory hslash] at h
  rcases Effect.bind_cases h with ⟨e, hmake, rfl⟩ | ⟨_, s₁, hmake, h⟩
  · rw [hmake] at hpaved
    exact hpaved.spared _
  rw [hmake] at hpaved
  have hs₁ := hpaved.tree hs
  rcases Effect.bind_cases h with ⟨e, hwrite, rfl⟩ | ⟨_, s₂, hwrite, h⟩
  · rw [overwrite_error hwrite]
    exact hpaved.spared _
  obtain ⟨t, id, ht, hwritten⟩ := overwrite_ok hs₁ hwrite
  have hfile : s₂.node? t = some (.file id) := by
    rw [hwritten.node, if_pos rfl]
  have htemporary : t = s.spelled directory ++ [temporary name] := by
    rw [spelled_of_resolve ht, spelled_eq hpaved.working,
      spelled_joinPath s directory hslash' hproper']
  have hwriting : Spared directory (fun p => p = t) s s₂ :=
    (hpaved.spared _).trans (hwritten.spared hs₁ directory)
  rcases hr : r with e | u
  · rw [hr] at h
    rw [rename_error h]
    exact hwriting.mono fun hp => Or.inl (hp.trans htemporary)
  · rw [hr] at h
    have hmoving : Spared directory
        (fun p => p = t ∨ p = s.spelled directory ++ [name]) s₂ s' := by
      have hdir : directory ≠ [] := by
        rintro rfl
        cases hmake
      obtain ⟨d, hd⟩ := joinPath_eq hdir
      rw [hd _ hslash'] at h ht
      rw [hd _ hslash] at h
      obtain ⟨above, rfl, habove, rfl, hnotdir, -⟩ := hwritten.rename hslash hproper ht h
      obtain rfl := List.append_inj_left' htemporary rfl
      refine hwritten.tree.move_spared hfile (temporary_place_ne _ name) hnotdir ?_ directory
      rw [List.dropLast_concat]
      exact hwritten.directory habove
    refine (hwriting.mono Or.inl).trans hmoving |>.mono ?_
    rintro p (hp | hp)
    · exact Or.inl (hp.trans htemporary)
    · exact Or.inr ⟨rfl, hp⟩

end Replacing

/-! ## What a path leads to -/

theorem bytesAt_of_directory {s : Store} {path : Text} (h : s.find? path = some .directory) :
    s.bytesAt path = .error ⟨.isDirectory, [path]⟩ := by
  unfold find? at h
  split at h
  · next p hp => simp [bytesAt, fileAt, hp, h, Except.map]
  · cases h

theorem bytesAt_of_file {s : Store} {path : Text} {id : Nat} (h : s.find? path = some (.file id)) :
    s.bytesAt path = .ok (s.file id).bytes := by
  unfold find? at h
  split at h
  · next p hp => simp [bytesAt, fileAt, hp, h, Except.map]
  · cases h

section Spared

variable {s s' : Store} {directory name : Text} {touched : Place → Prop}

/-- Behind a straight directory it only matters what stands at the place. -/
theorem IsStraight.find?_joinPath (hs : s.Tree) (hstraight : s.IsStraight directory)
    (hworking : s'.working = s.working)
    (hdirs : ∀ p, s.node? p = some .directory → s'.node? p = some .directory)
    (hslash : slash ∉ name) (hproper : isProperName name = true)
    (hnode : s'.node? (s.spelled directory ++ [name]) = s.node? (s.spelled directory ++ [name])) :
    s'.find? (joinPath directory name) = s.find? (joinPath directory name) := by
  have hplace := spelled_joinPath s directory hslash hproper
  unfold find?
  cases hp : s.resolve (joinPath directory name) with
  | ok p =>
    rw [resolve_mono hworking hdirs hp]
    dsimp only
    rw [spelled_of_resolve hp, hplace, hnode]
  | error r =>
    cases hp' : s'.resolve (joinPath directory name) with
    | error r' => rfl
    | ok p =>
      obtain rfl : p = s.spelled directory ++ [name] := by
        rw [spelled_of_resolve hp', spelled_eq hworking, hplace]
      dsimp only
      rw [hnode]
      by_contra hne
      have hold := hstraight.resolve_of_later hs hworking hslash hproper hp' hne
      rw [hp] at hold
      cases hold

/-- What stands at a place that is not touched stands there later. -/
theorem Spared.node?_of_ne (h : Spared directory touched s s') {p : Place} (hsafe : ¬ touched p)
    (hthere : s.node? p ≠ none) : s'.node? p = s.node? p := by
  cases hn : s.node? p with
  | none => exact absurd hn hthere
  | some n =>
    cases n with
    | directory => exact h.directories hn
    | file id => exact (h.old hsafe hn).1

/-- **A file that is spared** is found as it was, behind a straight directory. -/
theorem Spared.find?_joinPath (h : Spared directory touched s s') (hs : s.Tree)
    (hstraight : s.IsStraight directory) (hslash : slash ∉ name)
    (hproper : isProperName name = true) (hsafe : ¬ touched (s.spelled directory ++ [name])) :
    s'.find? (joinPath directory name) = s.find? (joinPath directory name) := by
  refine hstraight.find?_joinPath hs h.working (fun _ => h.directories) hslash hproper ?_
  by_cases hnone : s.node? (s.spelled directory ++ [name]) = none
  · rw [hnone]
    by_contra hne
    rcases h.new hsafe hne with hold | ⟨-, hway⟩
    · exact hold hnone
    · exact hstraight.not_onTheWay hnone hway
  · exact h.node?_of_ne hsafe hnone

/-- A directory that was there is there later. -/
theorem Spared.isDirectory (h : Spared directory touched s s') {path : Text}
    (hpath : s.isDirectory path = true) : s'.isDirectory path = true := by
  obtain ⟨p, hp, hnode⟩ := isDirectory_iff.mp hpath
  exact isDirectory_iff.mpr
    ⟨p, resolve_mono h.working (fun _ => h.directories) hp, h.directories hnode⟩

/-- A file that is not touched holds what it held. -/
theorem Spared.bytesAt_of_ok (h : Spared directory touched s s') {path : Text} {bytes : Bytes}
    (hsafe : ¬ touched (s.spelled path)) (hb : s.bytesAt path = .ok bytes) :
    s'.bytesAt path = .ok bytes := by
  unfold bytesAt at hb ⊢
  cases hf : s.fileAt path with
  | error e =>
    rw [hf] at hb
    cases hb
  | ok id =>
    obtain ⟨p, hp, hn⟩ := fileAt_eq_ok.mp hf
    rw [← spelled_of_resolve hp] at hsafe
    obtain ⟨hn', hfile⟩ := h.old hsafe hn
    have hp' := resolve_mono h.working (fun _ => h.directories) hp
    rw [fileAt_eq_ok.mpr ⟨p, hp', hn'⟩]
    rw [hf] at hb
    cases hb
    exact congrArg (fun f : File => Except.ok f.bytes) hfile

theorem Spared.bytesAt_joinPath (h : Spared directory touched s s') (hs : s.Tree)
    (hstraight : s.IsStraight directory) (hslash : slash ∉ name)
    (hproper : isProperName name = true) (hsafe : ¬ touched (s.spelled directory ++ [name]))
    (hfound : s.found (joinPath directory name) = true) :
    s'.bytesAt (joinPath directory name) = s.bytesAt (joinPath directory name) := by
  have hfind := h.find?_joinPath hs hstraight hslash hproper hsafe
  obtain ⟨n, hn⟩ := Option.isSome_iff_exists.mp hfound
  rw [hn] at hfind
  cases n with
  | directory => rw [bytesAt_of_directory hfind, bytesAt_of_directory hn]
  | file id =>
    have hnode : s.node? (s.spelled directory ++ [name]) = some (.file id) := by
      unfold find? at hn
      split at hn
      · next p hp =>
        rw [← hn, spelled_of_resolve hp, spelled_joinPath s directory hslash hproper]
      · cases hn
    rw [bytesAt_of_file hfind, bytesAt_of_file hn, (h.old hsafe hnode).2]

end Spared

end LineSift.Store
