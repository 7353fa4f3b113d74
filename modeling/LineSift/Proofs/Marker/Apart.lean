import LineSift.Proofs.Marker.Saved
import LineSift.Proofs.Store.Spare

/-!
# Saving markers side by side

The files of all markers stand in one directory under names made from absolute paths, and each is
written under a temporary name that is never the name of another one (`stateName_ne_temporary`).  So
saving a marker leaves the markers of paths with other names as they are (`load_of_other_name`), and
when it fails, however far it has come, it leaves its own marker as it is, too
(`save_whole_or_not_at_all`).  Both hold for a directory of markers whose path takes back, by two
dots, nothing but directories that are there (`Store.IsStraight`); otherwise saving can make a
directory that the path of the markers leads through (`load_changed_by_failure`).

Slashes become points in these names.  So two paths of which one has a point where the other one has
a slash share one file (`marker_shared`).
-/

namespace LineSift.Marker

open Text (ofString)
open Store (IsStraight Spared temporary)

/-- The temporary name of a marker is never the name of another one. -/
theorem stateName_ne_temporary (working path other : Text) :
    stateName working other ≠ temporary (stateName working path) := by
  intro he
  rw [temporary] at he
  have hends : ofString ".pos" = ofString ".tmp" := List.append_inj_right' he (by decide +kernel)
  exact absurd hends (by decide)

/-- The file of a marker stands in the directory of the saved markers. -/
theorem spelled_statePath (s : Store) (stateDir path : Text) :
    s.spelled (statePath s.workingPath stateDir path) =
      s.spelled stateDir ++ [stateName s.workingPath path] :=
  Store.spelled_joinPath s stateDir (slash_not_mem_stateName _ _) (isProperName_stateName _ _)

theorem spelled_temporary (s : Store) (stateDir path : Text) :
    s.spelled (statePath s.workingPath stateDir path ++ ofString ".tmp") =
      s.spelled stateDir ++ [temporary (stateName s.workingPath path)] := by
  have hslash := slash_not_mem_stateName s.workingPath path
  rw [statePath, Store.joinPath_temporary _ hslash]
  exact Store.spelled_joinPath s stateDir (Store.slash_not_mem_temporary hslash)
    (Store.isProperName_temporary _)

theorem load_fst (stateDir path : Text) {w : World} (hw : w.IsQuiet) :
    (load stateDir path w).1 = saved stateDir path w.store := by
  obtain ⟨w', hload, -⟩ := load_eq stateDir path (hw.leavesAlone _)
  rw [hload]

section Saving

variable {stateDir path : Text} {m : Marker}

/-- Saving a marker replaces its file, and tells why if that is refused. -/
theorem save_replaces {w : World} (hw : w.IsQuiet) (stateDir path : Text) (m : Marker) :
    (save stateDir path m w).2.IsQuiet ∧
      ∃ r, Store.replaceFile stateDir (statePath w.store.workingPath stateDir path) m.toBytes
          w.store = (r, (save stateDir path m w).2.store) ∧
        (save stateDir path m w).1 = r.mapError .store := by
  obtain ⟨w', hsave, hstore, htarget⟩ := save_eq stateDir path m hw
  rw [hsave]
  generalize Store.replaceFile stateDir (statePath w.store.workingPath stateDir path) m.toBytes
    w.store = replaced at hstore ⊢
  refine ⟨?_, replaced.1, Prod.ext rfl hstore.symm, rfl⟩
  intro id least
  rw [htarget]
  exact hw id least

/-- However far saving a marker comes, it touches nothing but its file and the temporary one. -/
theorem save_spared (w : Ground) (stateDir path : Text) (m : Marker) :
    Spared stateDir (fun p =>
        p = w.store.spelled stateDir ++ [temporary (stateName w.store.workingPath path)] ∨
        (save stateDir path m w).1 = .ok () ∧
          p = w.store.spelled stateDir ++ [stateName w.store.workingPath path])
      w.store (save stateDir path m w).2.store := by
  obtain ⟨-, r, hreplace, hr⟩ := save_replaces w.quiet stateDir path m
  have hspared := Store.replaceFile_spared w.tree (slash_not_mem_stateName _ _)
    (isProperName_stateName _ _) hreplace
  refine hspared.mono ?_
  rintro p (hp | ⟨rfl, hp⟩)
  · exact Or.inl hp
  · exact Or.inr ⟨hr, hp⟩

/-- What saving a marker leaves, however far it comes. -/
def afterSave (w : Ground) (stateDir path : Text) (m : Marker) : Ground where
  toWorld := (save stateDir path m w).2
  quiet := (save_replaces w.quiet stateDir path m).1
  tree := (save_spared w stateDir path m).tree w.tree

theorem load_afterSave (w : Ground) (stateDir path : Text) (m : Marker) (otherDir other : Text) :
    (load otherDir other (save stateDir path m w).2).1 =
      saved otherDir other (save stateDir path m w).2.store :=
  load_fst otherDir other (afterSave w stateDir path m).quiet

/-- A marker whose file is spared is found as it was. -/
theorem saved_spared {s s' : Store} {touched : Place → Prop} (hs : s.Tree)
    (h : Spared stateDir touched s s') (hstraight : s.IsStraight stateDir)
    (hsafe : ¬ touched (s.spelled stateDir ++ [stateName s.workingPath path])) :
    saved stateDir path s' = saved stateDir path s := by
  have hworking : s'.workingPath = s.workingPath := by
    rw [Store.workingPath, Store.workingPath, h.working]
  have hslash := slash_not_mem_stateName s.workingPath path
  have hproper := isProperName_stateName s.workingPath path
  have hfound : s'.found (statePath s.workingPath stateDir path) =
      s.found (statePath s.workingPath stateDir path) :=
    congrArg Option.isSome (h.find?_joinPath hs hstraight hslash hproper hsafe)
  unfold saved
  rw [hworking]
  dsimp only
  rw [hfound]
  split
  · next hthere =>
    rw [statePath] at hthere ⊢
    rw [h.bytesAt_joinPath hs hstraight hslash hproper hsafe hthere]
  · rfl

/-- **Saving a marker leaves the others** as they are: what is loaded for a path whose file has
another name is the same before and afterwards, whether saving succeeds or fails. -/
theorem load_of_other_name (w : Ground) {stateDir path other : Text}
    (hstraight : w.store.IsStraight stateDir)
    (hname : stateName w.store.workingPath other ≠ stateName w.store.workingPath path)
    (m : Marker) :
    (load stateDir other (save stateDir path m w).2).1 = (load stateDir other w).1 := by
  rw [load_fst _ _ w.quiet, load_afterSave]
  apply saved_spared w.tree (save_spared w stateDir path m) hstraight
  have hplace {n : Text} (hn : stateName w.store.workingPath other ≠ n) :
      w.store.spelled stateDir ++ [stateName w.store.workingPath other] ≠
        w.store.spelled stateDir ++ [n] := by
    intro he
    exact hn (List.singleton_inj.mp (List.append_cancel_left he))
  rintro (hp | ⟨-, hp⟩)
  · exact hplace (stateName_ne_temporary _ _ _) hp
  · exact hplace hname hp

/-- What is left when one marker has been saved where nothing was. -/
def single : Ground := afterSave (.ofTree [] .empty) "state" "/b" ⟨1, 2⟩

/-- Two markers in one directory. -/
theorem load_of_other_name_two :
    stateName single.store.workingPath "/b" ≠ stateName single.store.workingPath "/a" ∧
      (load "state" "/b" (save "state" "/a" ⟨3, 4⟩ single).2).1 = .ok ⟨1, 2⟩ := by
  have hstraight : single.store.IsStraight "state" :=
    Store.isStraight_of_isDirectory (by decide +kernel)
  have hname : stateName single.store.workingPath "/b" ≠
      stateName single.store.workingPath "/a" := by
    decide +kernel
  refine ⟨hname, (load_of_other_name single hstraight hname ⟨3, 4⟩).trans ?_⟩
  decide +kernel

/-- Two paths that become equal when their slashes become points share one marker. -/
theorem marker_shared :
    Store.absolutePath "/" "/a.b" ≠ Store.absolutePath "/" "/a/b" ∧
      (load "state" "/a.b" {}).1 = .ok {} ∧
      (load "state" "/a.b" (save "state" "/a/b" ⟨1, 2⟩ {}).2).1 = .ok ⟨1, 2⟩ := by
  decide +kernel

/-- What a marker that was saved leaves behind. -/
theorem save_ok (w : Ground) (hm : m.IsReadable)
    (h : (save stateDir path m w).1 = .ok ()) :
    (save stateDir path m w).2.store.isDirectory stateDir = true ∧
      (save stateDir path m w).2.store.find?
        (statePath w.store.workingPath stateDir path ++ ofString ".tmp") = none ∧
      ∀ other, Store.absolutePath w.store.workingPath other =
          Store.absolutePath w.store.workingPath path →
        (load stateDir other (save stateDir path m w).2).1 = .ok m := by
  obtain ⟨hquiet, r, hreplace, hr⟩ := save_replaces w.quiet stateDir path m
  have hspared := save_spared w stateDir path m
  generalize (save stateDir path m w).2 = w' at hquiet hreplace hspared ⊢
  obtain rfl : r = .ok () := by
    rw [hr] at h
    cases r with
    | error e => cases h
    | ok u => rfl
  have hslash := slash_not_mem_stateName w.store.workingPath path
  have hproper := isProperName_stateName w.store.workingPath path
  obtain ⟨above, hresolve, hreplaced⟩ := replaced_of_save w.tree hreplace
  have hplace : above ++ [stateName w.store.workingPath path] =
      w.store.spelled stateDir ++ [stateName w.store.workingPath path] := by
    rw [Store.spelled_of_resolve hresolve, Store.spelled_eq hspared.working, statePath,
      Store.spelled_joinPath _ _ hslash hproper]
  obtain rfl := List.append_inj_left' hplace rfl
  have hdir : stateDir ≠ [] := by
    rintro rfl
    obtain ⟨_, _, hmake, -⟩ := Effect.of_bind_ok hreplace
    cases hmake
  refine ⟨Store.isDirectory_of_resolve hdir hslash hresolve, ?_, ?_⟩
  · rw [statePath, Store.joinPath_temporary _ hslash, Store.find?]
    split
    · next p hp =>
      have htemporary := Store.spelled_joinPath w.store stateDir
        (Store.slash_not_mem_temporary hslash) (Store.isProperName_temporary _)
      rw [Store.spelled_of_resolve hp, Store.spelled_eq hspared.working, htemporary]
      exact hreplaced.gone
    · rfl
  · intro other hother
    have hworking : w'.store.workingPath = w.store.workingPath := by
      rw [Store.workingPath, Store.workingPath, hspared.working]
    have hname : stateName w'.store.workingPath other = stateName w'.store.workingPath path := by
      rw [hworking, stateName, stateName, hother]
    have hsame : saved stateDir other w'.store = saved stateDir path w'.store := by
      unfold saved statePath
      rw [hname]
    rw [load_fst _ _ hquiet, hsame]
    exact saved_of_save w.tree hm hreplace

/-- A marker that could not be saved is loaded as before. -/
theorem load_of_save_error (w : Ground) (hstraight : w.store.IsStraight stateDir)
    {e : SavedError} (h : (save stateDir path m w).1 = .error e) :
    (load stateDir path (save stateDir path m w).2).1 = (load stateDir path w).1 := by
  rw [load_fst _ _ w.quiet, load_afterSave]
  apply saved_spared w.tree (save_spared w stateDir path m) hstraight
  rintro (hp | ⟨hok, -⟩)
  · have hname := List.singleton_inj.mp (List.append_cancel_left hp)
    exact stateName_ne_temporary _ _ _ hname
  · rw [h] at hok
    cases hok

/-- **A marker is saved as a whole or not at all.**  The file of the marker lies in the directory of
the saved markers.  However far saving comes, no file but this one and the temporary one is made,
changed or removed, and no directory is made but those on the way to that directory.  If it
succeeds, exactly this marker is loaded for every path with the same absolute path, and the
temporary file is gone; if it fails, what is loaded is the same as before, provided that two dots in
the path of the directory take back nothing but directories that are there.  No temporary file is
the file of another marker. -/
theorem save_whole_or_not_at_all (w : Ground) (stateDir path : Text)
    (hinode : m.inode < UInt64.size) (hoffset : m.offset < UInt64.size) :
    let place := statePath w.store.workingPath stateDir path
    let r := save stateDir path m w
    w.store.spelled place = w.store.spelled stateDir ++ [stateName w.store.workingPath path] ∧
    Spared stateDir
      (fun p => p = w.store.spelled place ∨ p = w.store.spelled (place ++ ofString ".tmp"))
      w.store r.2.store ∧
    (r.1 = .ok () →
      r.2.store.isDirectory stateDir = true ∧ r.2.store.find? (place ++ ofString ".tmp") = none ∧
      ∀ other, Store.absolutePath w.store.workingPath other =
          Store.absolutePath w.store.workingPath path → (load stateDir other r.2).1 = .ok m) ∧
    (∀ e, r.1 = .error e → w.store.IsStraight stateDir →
      (load stateDir path r.2).1 = (load stateDir path w).1) ∧
    ∀ otherDir other, w.store.spelled (place ++ ofString ".tmp") ≠
      w.store.spelled (statePath w.store.workingPath otherDir other) := by
  have hplace := spelled_statePath w.store
  have htemporary := spelled_temporary w.store stateDir path
  have hshort {n : Nat} (hn : n < UInt64.size) : Json.IsShort n :=
    Json.IsShort.mono (n := UInt64.size) (by decide +kernel) (Nat.le_of_lt hn)
  intro place r
  refine ⟨hplace stateDir path, ?_, ?_, ?_, ?_⟩
  · apply (save_spared w stateDir path m).mono
    rintro p (hp | ⟨-, hp⟩)
    · exact Or.inr (hp.trans htemporary.symm)
    · exact Or.inl (hp.trans (hplace stateDir path).symm)
  · exact save_ok w ⟨hshort hinode, hshort hoffset⟩
  · intro e he hstraight
    exact load_of_save_error w hstraight he
  · intro otherDir other he
    rw [htemporary, hplace] at he
    have hname : [temporary (stateName w.store.workingPath path)] =
        [stateName w.store.workingPath other] :=
      List.append_inj_right' he (by rw [List.length_singleton, List.length_singleton])
    exact stateName_ne_temporary _ path other (List.singleton_inj.mp hname).symm

/-- A marker that is saved in place of another one. -/
theorem save_whole_or_not_at_all_again :
    (save "state" "/b" ⟨3, 4⟩ single).1 = .ok () ∧
      (load "state" "c/../b" (save "state" "/b" ⟨3, 4⟩ single).2).1 = .ok ⟨3, 4⟩ ∧
      (save "state" "/b" ⟨3, 4⟩ single).2.store.find? "state/.b.pos.tmp" = none := by
  have hsaved : (save "state" "/b" ⟨3, 4⟩ single).1 = .ok () := by decide +kernel
  obtain ⟨-, -, hok, -⟩ :=
    save_whole_or_not_at_all single "state" "/b" (m := ⟨3, 4⟩) (by decide) (by decide)
  obtain ⟨-, hgone, hload⟩ := hok hsaved
  have hplace : statePath single.store.workingPath "state" "/b" ++ ofString ".tmp" =
      ofString "state/.b.pos.tmp" := by decide +kernel
  rw [hplace] at hgone
  exact ⟨hsaved, hload "c/../b" (by decide +kernel), hgone⟩

/-- A directory whose marker cannot be saved because a directory has the temporary name. -/
def blocked : World where
  store :=
    { nodes := [(["w"], .directory), (["w", ".w.a.pos"], .file 0),
        (["w", ".w.a.pos.tmp"], .directory)]
      files := [⟨1, toBytes ⟨1, 2⟩⟩]
      working := ["w"] }

/-- Two dots that take back a directory that is not there lead nowhere at first, and to an old
marker after saving has made that directory and failed. -/
theorem load_changed_by_failure :
    (load "x/.." "a" blocked).1 = .ok {} ∧
      (save "x/.." "a" ⟨5, 6⟩ blocked).1 =
        .error (.store ⟨.isDirectory, ["x/../.w.a.pos.tmp"]⟩) ∧
      (load "x/.." "a" (save "x/.." "a" ⟨5, 6⟩ blocked).2).1 = .ok ⟨1, 2⟩ := by
  decide +kernel

end Saving

end LineSift.Marker
