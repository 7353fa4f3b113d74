import LineSift.Proofs.Store.Change

/-!
# Moving a file

A file that is moved takes the place of what was there, and nothing stands any more where it was;
all other places are as before (`Tree.node?_move`), and the store remains a tree (`Tree.move`).
-/

namespace LineSift.Store

theorem isBelow_iff {p above : Place} : isBelow p above = true ↔ ∃ t, t ≠ [] ∧ p = above ++ t := by
  rw [isBelow, Bool.and_eq_true, List.isPrefixOf_iff_prefix, decide_eq_true_iff]
  constructor
  · rintro ⟨⟨t, rfl⟩, hne⟩
    exact ⟨t, fun ht => hne (by rw [ht, List.append_nil]), rfl⟩
  · rintro ⟨t, ht, rfl⟩
    exact ⟨List.prefix_append _ _, fun he => ht (List.append_right_eq_self.mp he)⟩

/-- Where a place can be found after its neighbour has got another name. -/
theorem lookup_renamed {source target : Place} {nodes : List (Place × Node)}
    (hfree : nodes.lookup target = none) (q : Place) :
    (nodes.map fun x => if x.1 = source then (target, x.2) else x).lookup q =
      if q = target then nodes.lookup source
      else if q = source then none
      else nodes.lookup q := by
  induction nodes with
  | nil => simp
  | cons x nodes ih =>
    obtain ⟨p, n⟩ := x
    rw [lookup_cons] at hfree
    split at hfree
    · cases hfree
    · next hp =>
      rw [List.map_cons]
      by_cases hsource : p = source
      · rw [if_pos hsource, lookup_cons, ih hfree, lookup_cons, lookup_cons]
        by_cases hq : q = target
        · rw [if_pos hq, if_pos hq, if_pos hsource.symm]
        · rw [if_neg hq, if_neg hq, if_neg hq, hsource]
          by_cases hqs : q = source
          · rw [if_pos hqs, if_pos hqs]
          · rw [if_neg hqs, if_neg hqs, if_neg hqs]
      · rw [if_neg hsource, lookup_cons, ih hfree, lookup_cons, lookup_cons,
          if_neg (Ne.symm hsource)]
        by_cases hq : q = p
        · have hqt : ¬ q = target := fun he => hp (he.symm.trans hq)
          have hqs : ¬ q = source := fun he => hsource (hq.symm.trans he)
          rw [if_pos hq, if_neg hqt, if_neg hqs, if_pos hq]
        · rw [if_neg hq, if_neg hq]

/-- Something stands at each place that is taken. -/
theorem node?_of_mem {s : Store} {x : Place × Node} (hx : x ∈ s.nodes) : s.node? x.1 ≠ none := by
  by_cases hroot : x.1 = []
  · simp [hroot]
  · rw [node?_of_ne hroot, ne_eq, List.lookup_eq_none_iff]
    intro hall
    exact absurd (hall x hx) (by simp)

namespace Tree

variable {s : Store}

/-- Moving a file puts another place in the place of its own. -/
theorem nodes_move (hs : s.Tree) {source : Place} {id : Nat}
    (hsource : s.node? source = some (.file id)) (target : Place) :
    (s.move source target).nodes =
      (s.nodes.filter (·.1 ≠ target)).map fun x => if x.1 = source then (target, x.2) else x := by
  have hbelow : ∀ x ∈ s.nodes, isBelow x.1 source = false := by
    intro x hx
    by_contra hb
    obtain ⟨t, ht, he⟩ := isBelow_iff.mp (Bool.not_eq_false _ ▸ hb)
    have hnone := hs.below_file hsource ht
    rw [← he] at hnone
    exact node?_of_mem hx hnone
  apply List.map_congr_left
  rintro ⟨p, n⟩ hx
  have hno := hbelow _ (List.mem_filter.mp hx).1
  dsimp only at hno ⊢
  by_cases he : p = source
  · subst he
    simp
  · simp [he, hno]

theorem node?_move (hs : s.Tree) {source target : Place} {id : Nat}
    (hsource : s.node? source = some (.file id)) (hne : source ≠ target)
    (htarget : s.node? target ≠ some .directory) (q : Place) :
    (s.move source target).node? q =
      if q = target then some (.file id) else if q = source then none else s.node? q := by
  have hroot : target ≠ [] := by
    rintro rfl
    exact htarget (node?_nil s)
  have hroot' : source ≠ [] := by
    rintro rfl
    rw [node?_nil] at hsource
    cases hsource
  by_cases hq : q = []
  · subst hq
    rw [node?_nil, if_neg (Ne.symm hroot), if_neg (Ne.symm hroot'), node?_nil]
  rw [node?_of_ne hq, hs.nodes_move hsource, lookup_renamed (lookup_filter_self target _),
    lookup_filter_ne hne, ← node?_of_ne hroot', hsource, node?_of_ne hq]
  by_cases hqt : q = target
  · rw [if_pos hqt, if_pos hqt]
  · rw [if_neg hqt, if_neg hqt, lookup_filter_ne hqt]

theorem directory_move (hs : s.Tree) {source target : Place} {id : Nat}
    (hsource : s.node? source = some (.file id)) (hne : source ≠ target)
    (htarget : s.node? target ≠ some .directory) {p : Place}
    (hp : s.node? p = some .directory) : (s.move source target).node? p = some .directory := by
  have hpt : ¬ p = target := fun he => htarget (he ▸ hp)
  have hps : ¬ p = source := by
    rintro rfl
    rw [hsource] at hp
    cases hp
  rw [hs.node?_move hsource hne htarget, if_neg hpt, if_neg hps, hp]

/-- A store remains a tree when a file is moved into a directory. -/
theorem move (hs : s.Tree) {source target : Place} {id : Nat}
    (hsource : s.node? source = some (.file id)) (hne : source ≠ target)
    (htarget : s.node? target ≠ some .directory)
    (hparent : s.node? target.dropLast = some .directory) : (s.move source target).Tree := by
  have hnode := hs.node?_move hsource hne htarget
  have hdir {p : Place} (hp : s.node? p = some .directory) :
      (s.move source target).node? p = some .directory :=
    hs.directory_move hsource hne htarget hp
  have hfile {p : Place} {k : Nat} (hp : (s.move source target).node? p = some (.file k)) :
      p = target ∧ k = id ∨ p ≠ source ∧ s.node? p = some (.file k) := by
    rw [hnode] at hp
    split at hp
    · next he =>
      cases hp
      exact Or.inl ⟨he, rfl⟩
    · split at hp
      · cases hp
      · next hps => exact Or.inr ⟨hps, hp⟩
  constructor
  · intro p n hp
    rw [hnode] at hp
    split at hp
    · next he =>
      rw [he]
      exact hdir hparent
    · split at hp
      · cases hp
      · exact hdir (hs.parent hp)
  · intro p k hp
    rcases hfile hp with ⟨-, rfl⟩ | ⟨-, hp⟩
    · exact hs.stored hsource
    · exact hs.stored hp
  · intro p q k hp hq
    rcases hfile hp with ⟨rfl, rfl⟩ | ⟨hps, hp'⟩ <;> rcases hfile hq with ⟨rfl, hk⟩ | ⟨hqs, hq'⟩
    · rfl
    · exact absurd (hs.single hq' hsource) hqs
    · rw [hk] at hp'
      exact absurd (hs.single hp' hsource) hps
    · exact hs.single hp' hq'
  · exact hs.working

end Tree

/-- What it takes to move something. -/
theorem moved_ok {s : Store} {source target : Text} {p q : Place}
    (h : s.moved source target = .ok (p, q)) :
    ∃ dp a dq b, s.resolveName source = .ok (dp, a) ∧ s.resolveName target = .ok (dq, b) ∧
      s.step dp a = .ok p ∧ s.step dq b = .ok q ∧ s.moveRefusal? p q = none := by
  unfold moved at h
  cases hsource : s.resolveName source with
  | error r =>
    rw [hsource] at h
    cases h
  | ok da =>
    cases htarget : s.resolveName target with
    | error r =>
      rw [hsource, htarget] at h
      cases h
    | ok db =>
      obtain ⟨dp, a⟩ := da
      obtain ⟨dq, b⟩ := db
      rw [hsource, htarget] at h
      simp only [bind, Except.bind] at h
      split at h
      · cases h
      split at h
      · cases h
      next hp =>
      split at h
      · cases h
      split at h
      · cases h
      next hq =>
      split at h
      · cases h
      split at h
      · cases h
      · next hr =>
        cases h
        exact ⟨dp, a, dq, b, rfl, rfl, hp, hq, hr⟩

theorem rename_ok {s s' : Store} {source target : Text}
    (h : rename source target s = (.ok (), s')) :
    ∃ p q, s.moved source target = .ok (p, q) ∧ (p = q ∧ s' = s ∨ p ≠ q ∧ s' = s.move p q) := by
  unfold rename at h
  rw [Effect.get_bind] at h
  cases hm : s.moved source target with
  | error r =>
    rw [hm] at h
    cases h
  | ok pq =>
    obtain ⟨p, q⟩ := pq
    rw [hm] at h
    dsimp only at h
    refine ⟨p, q, rfl, ?_⟩
    split at h
    · next he =>
      cases h
      exact Or.inl ⟨he, rfl⟩
    · next hne =>
      cases h
      exact Or.inr ⟨hne, rfl⟩

end LineSift.Store
