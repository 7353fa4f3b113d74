import LineSift.Proofs.Store.Change

/-!
# What files hold does not matter for the tree

Paths are followed through directories, and whether an operation on the tree is refused does not
depend on what the files hold.  So making directories, writing a file, and moving it come to the
same in stores that differ in nothing else (`mirrors_makeDirectories`, `mirrors_overwrite`,
`mirrors_rename`).
-/

namespace LineSift

/-- A failure is dealt with in the same way from related states. -/
theorem Effect.Mirrors.tryCatch {ε σ α : Type} {R : σ → σ → Prop}
    {x x' : ExceptT ε (StateM σ) α} {f f' : ε → ExceptT ε (StateM σ) α}
    (hx : Mirrors R True x x') (hf : ∀ e, Mirrors R True (f e) (f' e)) :
    Mirrors R True (tryCatch x f) (tryCatch x' f') := by
  intro s s' hR _
  obtain ⟨hsame, hrest⟩ := hx s s' hR (Or.inl trivial)
  rw [tryCatch_apply, tryCatch_apply]
  rcases hxs : x s with ⟨e | a, t⟩ <;> rcases hxs' : x' s' with ⟨r, t'⟩
  · rw [hxs, hxs'] at hsame hrest
    cases hsame
    exact hf e t t' hrest (Or.inl trivial)
  · rw [hxs, hxs'] at hsame hrest
    cases hsame
    exact ⟨rfl, hrest⟩

namespace Store

/-- The second store has other files of the same number, and is the same apart from that. -/
def Refilled (s s' : Store) : Prop := ∃ files, files.length = s.files.length ∧ s' = { s with files }

/-- A change that comes to the same in such stores. -/
abbrev IgnoresBytes {α : Type} (change change' : Change α) : Prop :=
  Effect.Mirrors Refilled True change change'

variable {s s' : Store}

theorem Refilled.refl (s : Store) : Refilled s s := ⟨s.files, rfl, rfl⟩

/-- A store that is a tree is one whatever its files hold. -/
theorem Refilled.tree (h : Refilled s s') (hs : s.Tree) : s'.Tree := by
  obtain ⟨files, hlength, rfl⟩ := h
  refine ⟨hs.parent, fun hp => ?_, hs.single, hs.working⟩
  exact Nat.lt_of_lt_of_eq (hs.stored hp) hlength.symm

/-- Files can be changed on either side. -/
theorem Refilled.modify (h : Refilled s s') (id : Nat) (change change' : File → File) :
    Refilled { s with files := s.files.modify id change }
      { s' with files := s'.files.modify id change' } := by
  obtain ⟨files, hlength, rfl⟩ := h
  refine ⟨files.modify id change', ?_, rfl⟩
  rw [List.length_modify, List.length_modify, hlength]

theorem mirrors_set (h : Refilled s s') : IgnoresBytes (set s) (set s') := fun _ _ _ _ => ⟨rfl, h⟩

/-- A file that grows is all that is different. -/
theorem refilled_appendBytes (s : Store) (id : Nat) (bytes : Bytes) :
    Refilled s (s.appendBytes id bytes) := ⟨_, List.length_modify .., rfl⟩

theorem mirrors_makeDirectory (path : Text) :
    IgnoresBytes (makeDirectory path) (makeDirectory path) := by
  rintro s _ ⟨files, hlength, rfl⟩ _
  rw [makeDirectory_apply, makeDirectory_apply]
  have hresolve : ({ s with files } : Store).resolve = s.resolve := rfl
  have hnode : ({ s with files } : Store).node? = s.node? := rfl
  rw [hresolve, hnode]
  split
  · exact ⟨rfl, files, hlength, rfl⟩
  · split
    · exact ⟨rfl, files, hlength, rfl⟩
    · exact ⟨rfl, files, hlength, rfl⟩

theorem mirrors_ensureDirectory (path : Text) :
    IgnoresBytes (ensureDirectory path) (ensureDirectory path) := by
  intro s s' hR _
  obtain ⟨hsame, hrest⟩ := mirrors_makeDirectory path s s' hR (Or.inl trivial)
  unfold ensureDirectory
  rcases hs : makeDirectory path s with ⟨e | u, t⟩ <;>
    rcases hs' : makeDirectory path s' with ⟨r, t'⟩
  · rw [hs, hs'] at hsame hrest
    cases hsame
    refine ⟨?_, hrest⟩
    obtain ⟨files, -, rfl⟩ := hrest
    rfl
  · rw [hs, hs'] at hsame hrest
    cases hsame
    exact ⟨rfl, hrest⟩

/-- Making directories does not look into files. -/
theorem mirrors_makeDirectories (path : Text) :
    IgnoresBytes (makeDirectories path) (makeDirectories path) := by
  have hall (n : Nat) (path : Text) :
      IgnoresBytes (ensureDirectories n path) (ensureDirectories n path) := by
    induction n generalizing path with
    | zero => exact mirrors_ensureDirectory path
    | succ n ih =>
      unfold ensureDirectories
      refine Effect.Mirrors.get_bind ?_
      rintro s _ ⟨files, -, rfl⟩
      have hfound : ({ s with files } : Store).found = s.found := rfl
      dsimp only
      rw [hfound]
      split
      · refine Effect.Mirrors.bind (Effect.Mirrors.tryCatch (ih _) fun e => ?_) fun _ _ => ?_
        · split
          · exact Effect.mirrors_pure _
          · exact Effect.mirrors_throw _
        · split
          · exact Effect.mirrors_pure _
          · exact mirrors_ensureDirectory path
      · exact mirrors_ensureDirectory path
  exact hall path.length path

theorem mirrors_openForWriting (path : Text) :
    IgnoresBytes (openForWriting path) (openForWriting path) := by
  unfold openForWriting
  refine Effect.Mirrors.get_bind ?_
  rintro s _ ⟨files, hlength, rfl⟩
  have hresolve : ({ s with files } : Store).resolve = s.resolve := rfl
  have hnode : ({ s with files } : Store).node? = s.node? := rfl
  rw [hresolve, hnode]
  split
  · exact Effect.mirrors_throw _
  · split
    · exact Effect.mirrors_throw _
    · exact Effect.mirrors_pure _
    · refine Effect.Mirrors.unless (Effect.mirrors_throw _) fun _ => ?_
      rw [hlength]
      refine (mirrors_set ?_).bind fun _ _ => Effect.mirrors_pure _
      exact ⟨files ++ [⟨s.nextInode, []⟩], by simp [addFile, hlength],
        by simp [addFile, put, hlength]⟩

/-- What is written does not matter either. -/
theorem mirrors_overwrite (path : Text) (bytes bytes' : Bytes) :
    IgnoresBytes (overwrite path bytes) (overwrite path bytes') := by
  unfold overwrite
  refine (mirrors_openForWriting path).bind fun id _ => ?_
  exact fun s s' hR _ => ⟨rfl, hR.modify id _ _⟩

/-- Moving a file does not look into it. -/
theorem mirrors_rename (source target : Text) :
    IgnoresBytes (rename source target) (rename source target) := by
  unfold rename
  refine Effect.Mirrors.get_bind ?_
  rintro s _ ⟨files, hlength, rfl⟩
  have hmoved : ({ s with files } : Store).moved = s.moved := rfl
  rw [hmoved]
  split
  · exact Effect.mirrors_throw _
  · split
    · exact Effect.mirrors_pure _
    · exact mirrors_set ⟨files, hlength, rfl⟩

end Store

end LineSift
