import LineSift.Marker.Saved
import LineSift.Proofs.Encoding.Ascii
import LineSift.Proofs.Json.Record
import LineSift.Proofs.Store.Replace
import LineSift.Proofs.World

/-!
# Saved markers

A marker is read back from its bytes, as long as its numbers do not have too many digits
(`ofBytes_toBytes`), and so the marker that was saved is the one that is found (`saved_of_save`).
The name of its file is longer than the names on the way to the file whose marker it is, and so
saving it leaves that file as it is (`file_of_save`), and the growth of that file leaves the marker
as it is (`saved_appendBytes`).
-/

namespace LineSift.Marker

open Text (ofString)

/-- A marker whose numbers can be read. -/
def IsReadable (m : Marker) : Prop := Json.IsShort m.inode ∧ Json.IsShort m.offset

theorem ofRecord_record (m : Marker) : ofRecord m.record = .ok m := rfl

/-- The text of a marker is in ASCII, on one line. -/
theorem record_ascii (m : Marker) :
    ∀ c ∈ (m.record.encode ++ [.char '\n'] : Text), c.toNat < 0x80 ∧ c ≠ .char '\r' := by
  have htext : m.record.encode ++ [.char '\n'] =
      ofString "\x7b\"inode\": " ++ Text.decimal m.inode ++ ofString ", \"offset\": " ++
        Text.decimal m.offset ++ ofString "\x7d\n" := by
    have hinode : Json.encodeString (ofString "inode") = ofString "\"inode\"" := rfl
    have hoffset : Json.encodeString (ofString "offset") = ofString "\"offset\"" := rfl
    simp only [record, Json.encode, Json.encodeMembers, hinode, hoffset, List.append_assoc]
    rfl
  have hdigits {n : Nat} {c : CodePoint} (hc : c ∈ Text.decimal n) :
      c.toNat < 0x80 ∧ c ≠ .char '\r' := by
    have hdigit := Text.isAsciiDigit_of_mem_decimal hc
    refine ⟨?_, ?_⟩
    · rw [CodePoint.isAsciiDigit, CodePoint.inRange, Bool.and_eq_true, decide_eq_true_iff,
        decide_eq_true_iff] at hdigit
      omega
    · rintro rfl
      cases hdigit
  intro c hc
  rw [htext] at hc
  simp only [List.mem_append] at hc
  rcases hc with (((hc | hc) | hc) | hc) | hc
  · revert c
    decide
  · exact hdigits hc
  · revert c
    decide
  · exact hdigits hc
  · revert c
    decide

/-- **A marker is read back** from the bytes of its file. -/
theorem ofBytes_toBytes {m : Marker} (h : m.IsReadable) : ofBytes m.toBytes = .ok m := by
  have hascii := m.record_ascii
  have hlow : ∀ c ∈ (m.record.encode ++ [CodePoint.char '\n'] : Text), c.toNat < 0x80 :=
    fun c hc => (hascii c hc).1
  have htext : Encoding.decodeStrict m.toBytes =
      .ok (m.record.encode ++ [CodePoint.char '\n']) := by
    rw [toBytes]
    exact Encoding.decodeStrict_encode_ascii hlow
  have hends : (m.record.encode ++ [CodePoint.char '\n'] : Text).unifyLineEnds =
      m.record.encode ++ [CodePoint.char '\n'] :=
    Text.unifyLineEnds_eq fun hm => (hascii _ hm).2 rfl
  have hread : Json.decode (m.record.encode ++ [CodePoint.char '\n']) = .ok m.record :=
    Json.decode_encode_pair (by decide) (by decide) (by decide) h.1 h.2
  unfold ofBytes
  rw [htext]
  simp only [Except.mapError, bind, Except.bind, hends, hread, ofRecord_record]

/-! ## The file of a marker -/

theorem length_stateName (working path : Text) :
    (stateName working path).length = (Store.absolutePath working path).length + 4 := by
  rw [stateName, List.length_append, List.length_map]
  rfl

theorem slash_not_mem_stateName (working path : Text) :
    Store.slash ∉ stateName working path := by
  intro hm
  rcases List.mem_append.mp hm with hm | hm
  · obtain ⟨c, -, hc⟩ := List.mem_map.mp hm
    split at hc
    · exact absurd hc (by decide)
    · next hne => exact hne hc
  · exact absurd hm (by decide)

theorem isProperName_stateName (working path : Text) :
    Store.isProperName (stateName working path) = true := by
  apply Store.isProperName_of_length
  rw [length_stateName]
  omega

/-- The names on the way to a file are shorter than the name of the file of its marker. -/
theorem length_lt_stateName {s : Store} (hs : s.Tree) {path : Text} {p : Place}
    (h : s.resolve path = .ok p) {n : Text} (hn : n ∈ p) :
    n.length < (stateName s.workingPath path).length := by
  obtain ⟨slashes, -, habsolute⟩ := hs.absolutePath_of_resolve h
  have := Store.length_le_join hn
  rw [length_stateName, habsolute, List.length_append]
  omega

/-- The path of the file of a marker leads to a place with the name of that file in it. -/
theorem stateName_mem_of_resolve {s : Store} {stateDir path : Text} {q : Place}
    (h : s.resolve (statePath s.workingPath stateDir path) = .ok q) :
    stateName s.workingPath path ∈ q := by
  have hslash := slash_not_mem_stateName s.workingPath path
  have hproper := isProperName_stateName s.workingPath path
  by_cases hdir : stateDir = []
  · have hpath : statePath s.workingPath stateDir path = stateName s.workingPath path := by
      have hhead : ¬ (stateName s.workingPath path).head? = some Store.slash := fun he =>
        hslash (List.mem_of_mem_head? he)
      rw [statePath, hdir, Store.joinPath, if_neg hhead, if_pos (Or.inl rfl), List.nil_append]
    rw [hpath] at h
    obtain ⟨-, hfollow⟩ := Store.resolve_eq_ok.mp h
    rw [Store.follow_eq hfollow, Store.nameList_name hslash, List.foldl_cons, List.foldl_nil,
      Store.stepName_name hproper]
    exact List.mem_append_right _ List.mem_cons_self
  · obtain ⟨d, hd⟩ := Store.joinPath_eq hdir
    rw [statePath, hd _ hslash] at h
    obtain ⟨above, -, -, rfl⟩ := Store.resolve_name hslash hproper h
    exact List.mem_append_right _ List.mem_cons_self

/-- The marker that is saved for a path; one that says nothing if there is none. -/
def saved (stateDir path : Text) (s : Store) : Except SavedError Marker :=
  let place := statePath s.workingPath stateDir path
  if s.found place then ((s.bytesAt place).mapError .store).bind ofBytes else .ok {}

/-- When a file grows, its saved marker stays what it was. -/
theorem saved_appendBytes {s : Store} (hs : s.Tree) {stateDir path : Text} {id : Nat}
    (hf : s.fileAt path = .ok id) (more : Bytes) :
    saved stateDir path (s.appendBytes id more) = saved stateDir path s := by
  obtain ⟨p, hp, hnode⟩ := Store.fileAt_eq_ok.mp hf
  have hbytes : (s.appendBytes id more).bytesAt (statePath s.workingPath stateDir path) =
      s.bytesAt (statePath s.workingPath stateDir path) := by
    rw [Store.bytesAt, Store.bytesAt, Store.fileAt_appendBytes]
    cases hk : s.fileAt (statePath s.workingPath stateDir path) with
    | error e => rfl
    | ok k =>
      obtain ⟨q, hq, hnode'⟩ := Store.fileAt_eq_ok.mp hk
      have hne : ¬ k = id := by
        rintro rfl
        obtain rfl := hs.single hnode hnode'
        exact absurd (length_lt_stateName hs hp (stateName_mem_of_resolve hq)) (Nat.lt_irrefl _)
      have hsame : (s.appendBytes id more).file k = s.file k := by
        rw [Store.file_appendBytes, if_neg fun h => hne h.1]
      exact congrArg (fun f : File => Except.ok f.bytes) hsame
  have hworking : (s.appendBytes id more).workingPath = s.workingPath := rfl
  rw [saved, saved, hworking, Store.found_appendBytes, hbytes]

/-- Messages make no difference for a saved marker, if they are not written into its file. -/
theorem saved_noted {w w' : World} (h : w.Noted w') {stateDir path : Text}
    (hw : w.LeavesAlone (statePath w.store.workingPath stateDir path)) :
    saved stateDir path w'.store = saved stateDir path w.store := by
  rw [saved, saved, h.workingPath, h.found, h.bytesAt hw]

/-- Loading a marker only looks at the store.  What it comes to is what is saved, if messages are
not written into the file of the marker. -/
theorem load_eq (stateDir path : Text) {w : World}
    (hw : w.LeavesAlone (statePath w.store.workingPath stateDir path)) :
    ∃ w', load stateDir path w = (saved stateDir path w.store, w') ∧ w.Noted w' := by
  unfold load
  rw [Effect.get_bind]
  unfold Work.say
  rw [Effect.modify_bind, Effect.get_bind]
  -- only the store of the world with the first message matters from here on
  generalize hr : LogRecord.mk .debug _ = r
  have hnoted : w.Noted (w.tell r) := .tell w r
  rw [hnoted.found]
  unfold saved
  dsimp only
  split
  · refine ⟨w.tell r, ?_, hnoted⟩
    rw [Effect.bind_apply]
    unfold Work.ofStore
    dsimp only
    rw [hnoted.bytesAt hw]
    cases w.store.bytesAt (statePath w.store.workingPath stateDir path) with
    | error e => rfl
    | ok bytes =>
      have hid : (ofBytes bytes).mapError id = ofBytes bytes := by
        cases ofBytes bytes <;> rfl
      exact congrArg (·, w.tell r) hid
  · exact ⟨(w.tell r).tell _, rfl, hnoted.trans (.tell _ _)⟩

/-- Saving a marker replaces its file, after a message. -/
theorem save_apply (stateDir path : Text) (m : Marker) (w : World) :
    ∃ w₁, w.Noted w₁ ∧ save stateDir path m w =
      ((Store.replaceFile stateDir (statePath w.store.workingPath stateDir path) m.toBytes
          w₁.store).1.mapError .store,
        { w₁ with store := (Store.replaceFile stateDir
          (statePath w.store.workingPath stateDir path) m.toBytes w₁.store).2 }) := by
  unfold save
  rw [Effect.get_bind]
  unfold Work.say
  rw [Effect.modify_bind]
  exact ⟨_, .tell w _, rfl⟩

theorem save_eq (stateDir path : Text) (m : Marker) {w : World} (hw : w.IsQuiet) :
    ∃ w', save stateDir path m w =
        ((Store.replaceFile stateDir (statePath w.store.workingPath stateDir path) m.toBytes
          w.store).1.mapError .store, w') ∧
      w'.store = (Store.replaceFile stateDir (statePath w.store.workingPath stateDir path) m.toBytes
          w.store).2 ∧
      w'.target = w.target := by
  obtain ⟨w₁, hnoted, hsave⟩ := save_apply stateDir path m w
  rw [hnoted.store hw] at hsave
  exact ⟨_, hsave, rfl, hnoted.target⟩

section Saving

variable {s s' : Store} {stateDir path : Text} {m : Marker}

/-- What has been replaced when a marker has been saved. -/
theorem replaced_of_save (hs : s.Tree)
    (h : Store.replaceFile stateDir (statePath s.workingPath stateDir path) m.toBytes s =
      (.ok (), s')) :
    ∃ above, s'.resolve (statePath s.workingPath stateDir path) =
        .ok (above ++ [stateName s.workingPath path]) ∧
      s.Replaced s' above (stateName s.workingPath path) m.toBytes := by
  have hdir : stateDir ≠ [] := by
    rintro rfl
    obtain ⟨_, _, hmake, -⟩ := Effect.of_bind_ok h
    cases hmake
  obtain ⟨d, hd⟩ := Store.joinPath_eq hdir
  have hslash := slash_not_mem_stateName s.workingPath path
  rw [statePath, hd _ hslash] at h ⊢
  exact Store.replaceFile_ok hs hslash (isProperName_stateName _ _) h

/-- **A marker that was saved** is the one that is found afterwards. -/
theorem saved_of_save (hs : s.Tree) (hm : m.IsReadable)
    (h : Store.replaceFile stateDir (statePath s.workingPath stateDir path) m.toBytes s =
      (.ok (), s')) : saved stateDir path s' = .ok m := by
  obtain ⟨above, hresolve, hreplaced⟩ := replaced_of_save hs h
  obtain ⟨id, hnode, hbytes⟩ := hreplaced.holds
  have hworking : s'.workingPath = s.workingPath := by
    rw [Store.workingPath, Store.workingPath, hreplaced.working]
  have hfile := Store.fileAt_eq_ok.mpr ⟨_, hresolve, hnode⟩
  have hfound : s'.found (statePath s.workingPath stateDir path) = true := by
    rw [Store.found, Store.find?, hresolve]
    simp [hnode]
  have hread : s'.bytesAt (statePath s.workingPath stateDir path) = .ok m.toBytes := by
    rw [Store.bytesAt, hfile, ← hbytes]
    rfl
  rw [saved, hworking]
  simp only [hfound, if_true, hread, Except.mapError, Except.bind]
  exact ofBytes_toBytes hm

/-- The file whose marker is saved stays what it was. -/
theorem file_of_save (hs : s.Tree) {id : Nat} (hf : s.fileAt path = .ok id)
    (h : Store.replaceFile stateDir (statePath s.workingPath stateDir path) m.toBytes s =
      (.ok (), s')) : s'.fileAt path = .ok id ∧ s'.file id = s.file id := by
  obtain ⟨above, -, hreplaced⟩ := replaced_of_save hs h
  obtain ⟨p, hp, hnode⟩ := Store.fileAt_eq_ok.mp hf
  have hlength {n : Text} (hn : n ∈ p) := length_lt_stateName hs hp hn
  have hne : p ≠ above ++ [stateName s.workingPath path] := by
    rintro rfl
    exact absurd (hlength (List.mem_append_right _ (List.mem_singleton.mpr rfl)))
      (Nat.lt_irrefl _)
  have hne' : p ≠ above ++ [Store.temporary (stateName s.workingPath path)] := by
    rintro rfl
    have := hlength (List.mem_append_right _ (List.mem_singleton.mpr rfl))
    rw [Store.temporary, List.length_append] at this
    omega
  obtain ⟨hnode', hfile⟩ := hreplaced.old p id hne hne' hnode
  have hresolve := Store.resolve_mono hreplaced.working hreplaced.directories hp
  exact ⟨Store.fileAt_eq_ok.mpr ⟨p, hresolve, hnode'⟩, hfile⟩

end Saving

end LineSift.Marker
