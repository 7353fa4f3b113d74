import LineSift.Proofs.Store.Move
import LineSift.Proofs.Store.Path
import LineSift.Proofs.Store.Refilled

/-!
# Replacing a file as a whole

A file is written anew under another name, and then moved to its place.  If this succeeds, the file
holds the bytes, and apart from directories that may have been made nothing else has happened
(`replaceFile_ok`).
-/

namespace LineSift.Store

open Text (ofString)

/-- Writes a file under another name, and moves it to its place. -/
def replaceFile (directory path : Text) (bytes : Bytes) : Change Unit := do
  makeDirectories directory
  overwrite (path ++ ofString ".tmp") bytes
  rename (path ++ ofString ".tmp") path

/-- Replacing a file comes to the same whatever the files of the store hold, and whatever this one
is going to hold. -/
theorem mirrors_replaceFile (directory path : Text) (bytes bytes' : Bytes) :
    IgnoresBytes (replaceFile directory path bytes) (replaceFile directory path bytes') :=
  (mirrors_makeDirectories _).bind fun _ _ => (mirrors_overwrite _ _ _).bind fun _ _ =>
    mirrors_rename _ _

/-- Whether a file can be replaced depends neither on what the files of the store hold nor on what
it is going to hold itself. -/
theorem replaceFile_of_refilled {s s' s₁ : Store} {directory path : Text} {bytes : Bytes}
    (hsame : Refilled s s') (h : replaceFile directory path bytes s = (.ok (), s₁))
    (bytes' : Bytes) :
    ∃ s₂, replaceFile directory path bytes' s' = (.ok (), s₂) := by
  obtain ⟨hok, -⟩ := mirrors_replaceFile directory path bytes bytes' s s' hsame (Or.inl trivial)
  rw [h] at hok
  exact ⟨(replaceFile directory path bytes' s').2, Prod.ext hok rfl⟩

/-- The name under which a file is written first. -/
def temporary (name : Text) : Text := name ++ ofString ".tmp"

/-- A file in a directory was replaced, and nothing else has happened but that directories may have
been made. -/
structure Replaced (s s' : Store) (above : Place) (name : Text) (bytes : Bytes) : Prop where
  tree : s'.Tree
  working : s'.working = s.working
  holds : ∃ id, s'.node? (above ++ [name]) = some (.file id) ∧ (s'.file id).bytes = bytes
  gone : s'.node? (above ++ [temporary name]) = none
  directories : ∀ p, s.node? p = some .directory → s'.node? p = some .directory
  old : ∀ p id, p ≠ above ++ [name] → p ≠ above ++ [temporary name] →
    s.node? p = some (.file id) → s'.node? p = some (.file id) ∧ s'.file id = s.file id
  new : ∀ p n, p ≠ above ++ [name] → s'.node? p = some n → s.node? p = some n ∨ n = .directory

theorem isProperName_of_length {n : Text} (h : 2 < n.length) : isProperName n = true := by
  apply decide_eq_true
  refine ⟨?_, ?_, ?_⟩ <;>
  · rintro rfl
    exact absurd h (by decide)

/-- What a path with a name at its end leads to stands in the directory that the rest leads to. -/
theorem resolve_name {s : Store} {d name : Text} (hslash : slash ∉ name)
    (hproper : isProperName name = true) {p : Place} (h : s.resolve (d ++ slash :: name) = .ok p) :
    ∃ above, (nameList d).foldlM s.step (s.origin (d ++ slash :: name)) = .ok above ∧
      s.node? above = some .directory ∧ p = above ++ [name] := by
  obtain ⟨-, hfollow⟩ := resolve_eq_ok.mp h
  rw [nameList_append_slash, nameList_name hslash] at hfollow
  obtain ⟨above, habove, hlast⟩ := follow_append.mp hfollow
  obtain ⟨q, hstep, hend⟩ := follow_cons.mp hlast
  obtain rfl := Except.ok.inj hend
  obtain ⟨hdir, hq⟩ := step_eq_ok hstep
  exact ⟨above, habove, hdir, hq.trans (stepName_name hproper)⟩

theorem origin_name (s : Store) (d a b : Text) :
    s.origin (d ++ slash :: a) = s.origin (d ++ slash :: b) := by
  unfold origin
  cases d <;> rfl

/-- A file is not moved to the place of a directory. -/
theorem not_directory_of_moveRefusal? {s : Store} {p q : Place} {id : Nat}
    (hp : s.node? p = some (.file id)) (h : s.moveRefusal? p q = none) :
    s.node? q ≠ some .directory := by
  intro hq
  unfold moveRefusal? at h
  rw [hp, hq] at h
  split at h
  · cases h
  · split at h <;> cases h

theorem slash_not_mem_temporary {name : Text} (h : slash ∉ name) : slash ∉ temporary name := by
  intro hm
  rcases List.mem_append.mp hm with hm | hm
  · exact h hm
  · exact absurd hm (by decide)

theorem length_lt_temporary (name : Text) : name.length < (temporary name).length := by
  rw [temporary, List.length_append]
  exact Nat.lt_add_of_pos_right (by decide)

theorem temporary_ne (name : Text) : temporary name ≠ name := fun he =>
  absurd (congrArg List.length he) (Nat.ne_of_gt (length_lt_temporary name))

theorem temporary_place_ne (above : Place) (name : Text) :
    above ++ [temporary name] ≠ above ++ [name] := fun he =>
  temporary_ne name (List.cons.inj (List.append_cancel_left he)).1

theorem isProperName_temporary (name : Text) : isProperName (temporary name) = true := by
  apply isProperName_of_length
  rw [temporary, List.length_append]
  exact Nat.lt_of_lt_of_le (by decide) (Nat.le_add_left _ _)

theorem ne_nil_of_isProperName {n : Text} (h : isProperName n = true) : n ≠ [] := by
  rintro rfl
  cases h

/-- A file that is moved to another name in its directory is there afterwards. -/
theorem rename_names {s s' : Store} {d a b : Text} {above : Place} {id : Nat}
    (ha : slash ∉ a) (ha' : isProperName a = true) (hb : slash ∉ b) (hb' : isProperName b = true)
    (hne : a ≠ b) (hfollow : (nameList d).foldlM s.step (s.origin (d ++ slash :: a)) = .ok above)
    (hfile : s.node? (above ++ [a]) = some (.file id))
    (h : rename (d ++ slash :: a) (d ++ slash :: b) s = (.ok (), s')) :
    s' = s.move (above ++ [a]) (above ++ [b]) ∧ s.node? (above ++ [b]) ≠ some .directory ∧
      s.resolve (d ++ slash :: b) = .ok (above ++ [b]) := by
  obtain ⟨p, q, hmoved, hmove⟩ := rename_ok h
  obtain ⟨dp, a', dq, b', hsource, htarget, hp, hq, hrefusal⟩ := moved_ok hmoved
  obtain ⟨rfl, -, hdp⟩ := follow_of_resolveName ha (ne_nil_of_isProperName ha') hsource
  obtain ⟨rfl, hpath, hdq⟩ := follow_of_resolveName hb (ne_nil_of_isProperName hb') htarget
  obtain rfl := Except.ok.inj (hfollow.symm.trans hdp)
  have hdq' := hdq
  rw [origin_name s d b' a'] at hdq'
  obtain rfl := Except.ok.inj (hfollow.symm.trans hdq')
  obtain rfl := (step_eq_ok hp).2.trans (stepName_name ha')
  obtain rfl := (step_eq_ok hq).2.trans (stepName_name hb')
  obtain ⟨he, -⟩ | ⟨-, rfl⟩ := hmove
  · exact absurd (List.cons.inj (List.append_cancel_left he)).1 hne
  · refine ⟨rfl, not_directory_of_moveRefusal? hfile hrefusal, resolve_eq_ok.mpr ⟨hpath, ?_⟩⟩
    rw [nameList_append_slash, nameList_name hb]
    exact follow_append.mpr ⟨_, hdq, follow_cons.mpr ⟨_, hq, rfl⟩⟩

/-- What a file that was written anew and then moved replaces. -/
theorem Written.replaced {s s₁ s₂ : Store} {above : Place} {name : Text} {id : Nat} {bytes : Bytes}
    (hs : s.Tree) (hgrown : Grown s s₁) (h : Written s₁ s₂ (above ++ [temporary name]) id bytes)
    (habove : s₁.node? above = some .directory)
    (hnotdir : s₂.node? (above ++ [name]) ≠ some .directory) :
    Replaced s (s₂.move (above ++ [temporary name]) (above ++ [name])) above name bytes := by
  have hfile : s₂.node? (above ++ [temporary name]) = some (.file id) := by
    rw [h.node, if_pos rfl]
  have hnames := temporary_place_ne above name
  have hnode := h.tree.node?_move hfile hnames hnotdir
  have hdirs {p : Place} (hp : s.node? p = some .directory) :
      (s₂.move (above ++ [temporary name]) (above ++ [name])).node? p = some .directory :=
    h.tree.directory_move hfile hnames hnotdir (h.directory (hgrown.old hp))
  refine ⟨h.tree.move hfile hnames hnotdir ?_, h.working.trans hgrown.working, ⟨id, ?_, h.bytes⟩,
    ?_, fun p => hdirs, ?_, ?_⟩
  · rw [List.dropLast_concat]
    exact h.directory habove
  · rw [hnode, if_pos rfl]
  · rw [hnode, if_neg hnames, if_pos rfl]
  · intro p k hpt hps hp
    have hp₁ := hgrown.old hp
    have htree := hgrown.tree hs
    have hk : k ≠ id := by
      rintro rfl
      rcases h.fresh with hn | ⟨-, hid⟩
      · exact hps (htree.single hp₁ hn)
      · exact absurd (htree.stored hp₁) (by omega)
    refine ⟨?_, ?_⟩
    · rw [hnode, if_neg hpt, if_neg hps, h.node, if_neg hps, hp₁]
    · have hfiles : s₁.file k = s.file k := by
        rw [file, file, hgrown.files]
      exact (h.other k hk (htree.stored hp₁)).trans hfiles
  · intro p n hpt hp
    rw [hnode, if_neg hpt] at hp
    split at hp
    · cases hp
    · next hps =>
      rw [h.node, if_neg hps] at hp
      exact hgrown.new hp

/-- A temporary file that has been written is moved within its directory. -/
theorem Written.rename {s s' s'' : Store} {d name : Text} {t : Place} {id : Nat} {bytes : Bytes}
    (h : Written s s' t id bytes) (hslash : slash ∉ name) (hproper : isProperName name = true)
    (ht : s.resolve (d ++ slash :: temporary name) = .ok t)
    (hrename : Store.rename (d ++ slash :: temporary name) (d ++ slash :: name) s' =
      (.ok (), s'')) :
    ∃ above, t = above ++ [temporary name] ∧ s.node? above = some .directory ∧
      s'' = s'.move t (above ++ [name]) ∧ s'.node? (above ++ [name]) ≠ some .directory ∧
      s'.resolve (d ++ slash :: name) = .ok (above ++ [name]) := by
  have hslash' := slash_not_mem_temporary hslash
  have hproper' := isProperName_temporary name
  obtain ⟨above, hfollow, habove, rfl⟩ := resolve_name hslash' hproper' ht
  have hfile : s'.node? (above ++ [temporary name]) = some (.file id) := by
    rw [h.node, if_pos rfl]
  have horigin : s'.origin (d ++ slash :: temporary name) =
      s.origin (d ++ slash :: temporary name) := by
    rw [origin, origin, h.working]
  have hfollow' : (nameList d).foldlM s'.step (s'.origin (d ++ slash :: temporary name)) =
      .ok above := by
    rw [horigin]
    exact follow_mono (fun _ => h.directory) hfollow
  obtain ⟨rfl, hnotdir, hresolve⟩ :=
    rename_names hslash' hproper' hslash hproper (temporary_ne name) hfollow' hfile hrename
  exact ⟨above, rfl, habove, rfl, hnotdir, hresolve⟩

/-- **A file that is replaced** holds its bytes, at the place that its path leads to. -/
theorem replaceFile_ok {s s' : Store} (hs : s.Tree) {directory d name : Text} {bytes : Bytes}
    (hslash : slash ∉ name) (hproper : isProperName name = true)
    (h : replaceFile directory (d ++ slash :: name) bytes s = (.ok (), s')) :
    ∃ above, s'.resolve (d ++ slash :: name) = .ok (above ++ [name]) ∧
      Replaced s s' above name bytes := by
  have htemp : d ++ slash :: name ++ ofString ".tmp" = d ++ slash :: temporary name :=
    List.append_assoc _ _ _
  unfold replaceFile at h
  rw [htemp] at h
  obtain ⟨_, s₁, hmake, h⟩ := Effect.of_bind_ok h
  obtain ⟨_, s₂, hwrite, hrename⟩ := Effect.of_bind_ok h
  have hgrown : Grown s s₁ := by
    have := makeDirectories_grown directory s
    rw [hmake] at this
    exact this
  obtain ⟨t, id, ht, hwritten⟩ := overwrite_ok (hgrown.tree hs) hwrite
  obtain ⟨above, rfl, habove, rfl, hnotdir, hresolve⟩ :=
    hwritten.rename hslash hproper ht hrename
  have hfile : s₂.node? (above ++ [temporary name]) = some (.file id) := by
    rw [hwritten.node, if_pos rfl]
  refine ⟨above, ?_, hwritten.replaced hs hgrown habove hnotdir⟩
  exact resolve_mono (s := s₂) rfl
    (fun _ => hwritten.tree.directory_move hfile (temporary_place_ne above name) hnotdir) hresolve

end LineSift.Store
