import LineSift.Proofs.Store.Spare
import LineSift.Proofs.Text.Order

/-!
# What a directory shows

A directory shows the names of what stands in it, in order and each of them once (`mem_names`,
`names_sorted`).  Rules are read from the files of a directory whose names do not begin with a
point.  The names of saved markers do, so while markers are saved every place that is shown is
spared, and nothing comes to be shown but directories on the way (`Spared.isFile_shown`).
-/

namespace LineSift.Store

/-! ## Names in a directory -/

theorem nameIn_eq_some {p : Place} {x : Place × Node} {n : Text} :
    nameIn p x = some n ↔ x.1 = p ++ [n] := by
  unfold nameIn
  constructor
  · intro h
    split at h
    · next hp =>
      obtain ⟨q, hq⟩ := List.getLast?_eq_some_iff.mp h
      rw [hq, List.dropLast_concat] at hp
      rw [hq, hp]
    · cases h
  · intro h
    rw [h, List.dropLast_concat, if_pos rfl, List.getLast?_concat]

/-- **The names in a directory** are those of what stands there. -/
theorem mem_names {s : Store} {p : Place} {n : Text} :
    n ∈ s.names p ↔ IsName n ∧ s.node? (p ++ [n]) ≠ none := by
  rw [names, Text.mem_inOrder, List.mem_filter, decide_eq_true_eq, and_comm, List.mem_filterMap]
  refine and_congr_right fun _ => ⟨?_, fun hn => ?_⟩
  · rintro ⟨x, hx, hn⟩
    exact nameIn_eq_some.mp hn ▸ node?_of_mem hx
  · obtain ⟨m, hm⟩ := Option.ne_none_iff_exists'.mp hn
    rw [node?_of_ne (by simp)] at hm
    exact ⟨_, mem_of_lookup hm, nameIn_eq_some.mpr rfl⟩

theorem names_sorted (s : Store) (p : Place) : (s.names p).Pairwise Text.Before :=
  Text.inOrder_sorted _

/-- What a name in a directory leads to stands in the directory. -/
theorem node?_of_isFile {s : Store} {directory n : Text} (hname : IsName n)
    (h : s.isFile (joinPath directory n) = true) :
    ∃ id, s.node? (s.spelled directory ++ [n]) = some (.file id) := by
  unfold isFile find? at h
  cases hp : s.resolve (joinPath directory n) with
  | error r => simp [hp] at h
  | ok p =>
    rw [hp] at h
    dsimp only at h
    rw [spelled_of_resolve hp, spelled_joinPath s directory hname.2.1 hname.1] at h
    split at h
    · next id hid => exact ⟨id, hid⟩
    · cases h

/-! ## What is shown -/

/-- A place whose last name does not begin with a point. -/
def isShown (p : Place) : Bool := p.getLast?.any fun n => n.head? ≠ some (.char '.')

theorem isShown_concat (p : Place) (n : Text) :
    isShown (p ++ [n]) = true ↔ n.head? ≠ some (.char '.') := by
  simp [isShown]

theorem not_touched_of_shown {touched : Place → Prop} (hhidden : ∀ p, touched p → isShown p = false)
    (p : Place) {n : Text} (hshown : n.head? ≠ some (.char '.')) : ¬ touched (p ++ [n]) := by
  intro ht
  have hn := hhidden _ ht
  rw [(isShown_concat p n).mpr hshown] at hn
  cases hn

theorem isShown_hidden {n : Text} (h : n.head? = some (.char '.')) (p : Place) :
    isShown (p ++ [n]) = false := by
  simp [isShown, h]

theorem head?_temporary {n : Text} (h : n.head? = some (.char '.')) :
    (temporary n).head? = some (.char '.') := by
  simp [temporary, List.head?_append, h]

/-- Where only hidden places were touched, a name that is shown is that of a file if and only if it
was one before: what is new is a directory on the way. -/
theorem Spared.isFile_shown {s s' : Store} {stateDir directory n : Text} {touched : Place → Prop}
    (h : Spared stateDir touched s s') (hs : s.Tree)
    (hhidden : ∀ p, touched p → isShown p = false) (hdirectory : s.isDirectory directory = true)
    (hname : IsName n) (hshown : n.head? ≠ some (.char '.')) :
    s'.isFile (joinPath directory n) = s.isFile (joinPath directory n) := by
  have hsafe : ¬ touched (s.spelled directory ++ [n]) := not_touched_of_shown hhidden _ hshown
  by_cases hthere : s.node? (s.spelled directory ++ [n]) = none
  · -- what is new here is no file
    have hfile {t : Store} (hspelled : t.spelled directory = s.spelled directory)
        (hnone : ∀ id, t.node? (s.spelled directory ++ [n]) ≠ some (.file id)) :
        t.isFile (joinPath directory n) = false := by
      rw [Bool.eq_false_iff]
      intro hfile
      obtain ⟨id, hid⟩ := node?_of_isFile hname hfile
      exact hnone id (hspelled ▸ hid)
    rw [hfile rfl (by simp [hthere]), hfile (spelled_eq h.working directory)]
    intro id hid
    rcases h.new hsafe (by simp [hid]) with hold | ⟨hdir, -⟩
    · exact hold hthere
    · rw [hid] at hdir
      cases hdir
  · have hfind := (isStraight_of_isDirectory hdirectory).find?_joinPath hs h.working
      (fun _ => h.directories) hname.2.1 hname.1 (h.node?_of_ne hsafe hthere)
    rw [isFile, isFile, hfind]

end LineSift.Store
