import LineSift.Proofs.Store.Listing
import LineSift.RuleSet.Directory

/-!
# The rules files of a directory

Rules are read from the files of a directory whose names do not begin with a point
(`mem_ruleNames`), in the order of their names (`ruleNames_sorted`).  The names are the same when
places that are hidden have been touched in the meantime (`ruleNames_spared`), and the files hold
the same (`filesIn_spared`).
-/

namespace LineSift.RuleSet

open Store (IsName joinPath Spared)

/-- Whether a name is that of a rules file, as far as it is one of the names in its directory. -/
def isRulesFile (s : Store) (directory n : Text) : Bool :=
  s.isFile (joinPath directory n) && decide (n.head? ≠ some (.char '.'))

/-- The names of the rules files in a directory. -/
def ruleNames (s : Store) (directory : Text) : List Text :=
  (s.names (s.spelled directory)).filter (isRulesFile s directory)

theorem isRulesFile_iff {s : Store} {directory n : Text} :
    isRulesFile s directory n = true ↔
      s.isFile (joinPath directory n) = true ∧ n.head? ≠ some (.char '.') := by
  rw [isRulesFile, Bool.and_eq_true, decide_eq_true_eq]

theorem filesIn_eq {s : Store} {directory : Text} (h : s.isDirectory directory = true) :
    filesIn s directory = .ok ((ruleNames s directory).map (joinPath directory)) := by
  obtain ⟨p, hp, hnode⟩ := Store.isDirectory_iff.mp h
  unfold filesIn Store.listDirectory
  rw [hp]
  dsimp only
  rw [hnode]
  dsimp only
  rw [Except.map, List.filter_map, List.filter_filter, ruleNames, Store.spelled_of_resolve hp]
  rfl

/-- **The rules files** of a directory are its files, but for those with a point before
their names. -/
theorem mem_ruleNames {s : Store} {directory n : Text} :
    n ∈ ruleNames s directory ↔ IsName n ∧ n.head? ≠ some (.char '.') ∧
      s.isFile (joinPath directory n) = true := by
  rw [ruleNames, List.mem_filter, isRulesFile_iff, Store.mem_names]
  constructor
  · rintro ⟨⟨hname, -⟩, hfile, hshown⟩
    exact ⟨hname, hshown, hfile⟩
  · rintro ⟨hname, hshown, hfile⟩
    obtain ⟨id, hid⟩ := Store.node?_of_isFile hname hfile
    exact ⟨⟨hname, by simp [hid]⟩, hfile, hshown⟩

theorem ruleNames_sorted (s : Store) (directory : Text) :
    (ruleNames s directory).Pairwise Text.Before :=
  (s.names_sorted _).filter _

/-! ## Rules files that are spared -/

section Sparing

variable {s s' : Store} {stateDir directory : Text} {touched : Place → Prop}

theorem ruleNames_spared (h : Spared stateDir touched s s') (hs : s.Tree)
    (hhidden : ∀ p, touched p → Store.isShown p = false)
    (hdirectory : s.isDirectory directory = true) :
    ruleNames s' directory = ruleNames s directory := by
  refine Text.eq_of_sorted (ruleNames_sorted s' directory)
    (ruleNames_sorted s directory) fun n => ?_
  rw [mem_ruleNames, mem_ruleNames]
  refine and_congr_right fun hname => and_congr_right fun hshown => ?_
  rw [h.isFile_shown hs hhidden hdirectory hname hshown]

/-- The rules files of a directory are found again, and hold what they held. -/
theorem filesIn_spared (h : Spared stateDir touched s s') (hs : s.Tree)
    (hhidden : ∀ p, touched p → Store.isShown p = false)
    (hdirectory : s.isDirectory directory = true)
    {paths : List Text} (hpaths : filesIn s directory = .ok paths) :
    filesIn s' directory = .ok paths ∧
      ∀ path ∈ paths, ∀ bytes, s.bytesAt path = .ok bytes → s'.bytesAt path = .ok bytes := by
  rw [filesIn_eq hdirectory] at hpaths
  cases hpaths
  refine ⟨?_, fun path hpath bytes hbytes => ?_⟩
  · rw [filesIn_eq (h.isDirectory hdirectory), ruleNames_spared h hs hhidden hdirectory]
  · obtain ⟨n, hn, rfl⟩ := List.mem_map.mp hpath
    obtain ⟨hname, hshown, -⟩ := mem_ruleNames.mp hn
    refine h.bytesAt_of_ok (fun ht => ?_) hbytes
    rw [Store.spelled_joinPath s directory hname.2.1 hname.1] at ht
    exact Store.not_touched_of_shown hhidden _ hshown ht

end Sparing

end LineSift.RuleSet
