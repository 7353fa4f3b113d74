import LineSift.Proofs.Store.Tree
import Mathlib.Data.List.TakeWhile

/-!
# Paths and the places they lead to

A path is followed name by name, so what it leads to is told by its text and the working directory
alone (`absolutePath_of_resolve`): the absolute path spells the place.  A name is put behind a
directory in one way for all names (`joinPath_eq`), and the directory in which such a path names
something is the one that it is followed to (`follow_of_resolveName`).
-/

namespace LineSift.Store

open Text (splitFrom)

theorem nameList_slash (t : Text) : nameList (slash :: t) = [] :: nameList t := rfl

/-- There is always a first name, which what is put in front of the path is put in front of. -/
theorem nameList_cons {c : CodePoint} (hc : c ≠ slash) (t : Text) :
    ∃ n ns, nameList t = n :: ns ∧ nameList (c :: t) = (c :: n) :: ns := by
  obtain ⟨n, ns, hn⟩ := List.exists_cons_of_ne_nil (Text.splitFrom_ne_nil [slash] 0 t)
  have hno : ¬ [slash].isPrefixOf (c :: t) = true := by
    simp [List.isPrefixOf, Ne.symm hc]
  refine ⟨n, ns, hn, ?_⟩
  rw [nameList, Text.splitOn, splitFrom, if_neg hno, hn]
  rfl

theorem nameList_append_slash (a b : Text) :
    nameList (a ++ slash :: b) = nameList a ++ nameList b := by
  induction a with
  | nil => rfl
  | cons c a ih =>
    rw [List.cons_append]
    by_cases hc : c = slash
    · rw [hc, nameList_slash, nameList_slash, ih]
      rfl
    · obtain ⟨n, ns, hn, hcons⟩ := nameList_cons hc a
      obtain ⟨m, ms, hm, hcons'⟩ := nameList_cons hc (a ++ slash :: b)
      rw [hcons, hcons']
      rw [ih, hn, List.cons_append] at hm
      obtain ⟨rfl, rfl⟩ := List.cons.inj hm
      rfl

theorem nameList_name {n : Text} (h : slash ∉ n) : nameList n = [n] := by
  induction n with
  | nil => rfl
  | cons c n ih =>
    have hc : c ≠ slash := fun he => h (he ▸ List.mem_cons_self)
    obtain ⟨m, ms, hm, hcons⟩ := nameList_cons hc n
    rw [ih fun hn => h (List.mem_cons_of_mem _ hn)] at hm
    obtain ⟨rfl, rfl⟩ := List.cons.inj hm
    exact hcons

theorem nameList_join {names : List Text} (hne : names ≠ []) (h : ∀ n ∈ names, slash ∉ n) :
    nameList (Text.join [slash] names) = names := by
  induction names with
  | nil => exact absurd rfl hne
  | cons n names ih =>
    have hn := nameList_name (h n List.mem_cons_self)
    cases names with
    | nil => exact hn
    | cons m names =>
      rw [Text.join_cons _ _ (List.cons_ne_nil m names), List.append_assoc, List.singleton_append,
        nameList_append_slash, hn, ih (List.cons_ne_nil m names)
          fun k hk => h k (List.mem_cons_of_mem _ hk)]
      rfl

/-- Code points of the names of a path come from the path. -/
theorem mem_of_mem_nameList {path n : Text} (hn : n ∈ nameList path) {c : CodePoint} (hc : c ∈ n) :
    c ∈ path := by
  induction path generalizing n with
  | nil =>
    rw [show nameList [] = [[]] from rfl, List.mem_singleton] at hn
    rw [hn] at hc
    exact hc
  | cons d path ih =>
    by_cases hd : d = slash
    · rw [hd, nameList_slash] at hn
      rcases List.mem_cons.mp hn with rfl | hn
      · exact absurd hc List.not_mem_nil
      · exact List.mem_cons_of_mem _ (ih hn hc)
    · obtain ⟨m, ms, hm, hcons⟩ := nameList_cons hd path
      rw [hcons] at hn
      rcases List.mem_cons.mp hn with rfl | hn
      · rcases List.mem_cons.mp hc with rfl | hc
        · exact List.mem_cons_self
        · exact List.mem_cons_of_mem _ (ih (by rw [hm]; exact List.mem_cons_self) hc)
      · exact List.mem_cons_of_mem _ (ih (by rw [hm]; exact List.mem_cons_of_mem _ hn) hc)

/-- Names have no slash in them. -/
theorem slash_not_mem_of_nameList {path n : Text} (hn : n ∈ nameList path) : slash ∉ n := by
  induction path generalizing n with
  | nil =>
    rw [show nameList [] = [[]] from rfl, List.mem_singleton] at hn
    rw [hn]
    exact List.not_mem_nil
  | cons d path ih =>
    by_cases hd : d = slash
    · rw [hd, nameList_slash] at hn
      rcases List.mem_cons.mp hn with rfl | hn
      · exact List.not_mem_nil
      · exact ih hn
    · obtain ⟨m, ms, hm, hcons⟩ := nameList_cons hd path
      rw [hcons] at hn
      rcases List.mem_cons.mp hn with rfl | hn
      · rw [List.mem_cons, not_or]
        exact ⟨Ne.symm hd, ih (by rw [hm]; exact List.mem_cons_self)⟩
      · exact ih (by rw [hm]; exact List.mem_cons_of_mem _ hn)

/-- Putting a name behind a directory. -/
theorem joinPath_eq {directory : Text} (h : directory ≠ []) :
    ∃ d, ∀ name, slash ∉ name → joinPath directory name = d ++ slash :: name := by
  have hhead {name : Text} (hname : slash ∉ name) : ¬ name.head? = some slash := fun he =>
    hname (List.mem_of_mem_head? he)
  by_cases hlast : directory.getLast? = some slash
  · obtain ⟨d, hd⟩ := List.getLast?_eq_some_iff.mp hlast
    refine ⟨d, fun name hname => ?_⟩
    rw [joinPath, if_neg (hhead hname), if_pos (Or.inr hlast), hd, List.append_assoc]
    rfl
  · refine ⟨directory, fun name hname => ?_⟩
    rw [joinPath, if_neg (hhead hname), if_neg (not_or.mpr ⟨h, hlast⟩)]

/-! ## What a path names -/

/-- Following the empty names between slashes leads nowhere else. -/
theorem follow_slashes {s : Store} {p : Place} (hp : s.node? p = some .directory) {t : Text}
    (ht : t.all (· == slash) = true) : (nameList t).foldlM s.step p = .ok p := by
  have hstep : s.step p [] = .ok p := by
    rw [step, hp]
    rfl
  induction t with
  | nil => exact follow_cons.mpr ⟨p, hstep, rfl⟩
  | cons c t ih =>
    rw [List.all_cons, Bool.and_eq_true, beq_iff_eq] at ht
    rw [ht.1, nameList_slash]
    exact follow_cons.mpr ⟨p, hstep, ih ht.2⟩

theorem trimSlashes_append (t : Text) :
    ∃ u, t = trimSlashes t ++ u ∧ u.all (· == slash) = true := by
  refine ⟨(t.reverse.takeWhile (· == slash)).reverse, ?_, ?_⟩
  · rw [trimSlashes, ← List.reverse_append, List.takeWhile_append_dropWhile, List.reverse_reverse]
  · rw [List.all_reverse]
    exact List.all_takeWhile

theorem splitPath_eq {d name : Text} (h : slash ∉ name) :
    splitPath (d ++ slash :: name) =
      (if (d ++ [slash]).all (· == slash) then d ++ [slash] else trimSlashes (d ++ [slash]),
        name) := by
  have hall : ∀ c ∈ name.reverse, (c != slash) = true := by
    intro c hc
    rw [bne_iff_ne]
    rintro rfl
    exact h (List.mem_reverse.mp hc)
  have hname : ((d ++ slash :: name).reverse.takeWhile (· != slash)).reverse = name := by
    rw [List.reverse_append, List.reverse_cons, List.append_assoc,
      List.takeWhile_append_of_pos hall, List.singleton_append,
      List.takeWhile_cons_of_neg (by simp), List.append_nil, List.reverse_reverse]
  have hhead : (d ++ slash :: name).take ((d ++ slash :: name).length - name.length) =
      d ++ [slash] := by
    have hlen : (d ++ slash :: name).length - name.length = (d ++ [slash]).length := by
      simp only [List.length_append, List.length_cons, List.length_nil]
      omega
    have hpath : d ++ slash :: name = (d ++ [slash]) ++ name := List.append_cons d slash name
    rw [hlen, hpath, List.take_left]
  unfold splitPath
  simp only [hname, hhead]

/-- A path with a name at its end has no slash there. -/
theorem trimSlashes_name {d name : Text} (h : slash ∉ name) (hne : name ≠ []) :
    trimSlashes (d ++ slash :: name) = d ++ slash :: name := by
  obtain ⟨front, c, rfl⟩ : ∃ front c, name = front ++ [c] :=
    ⟨_, _, (List.dropLast_concat_getLast hne).symm⟩
  have hc : ¬ (c == slash) = true := by
    rw [beq_iff_eq]
    rintro rfl
    exact h (List.mem_append_right _ (List.mem_singleton.mpr rfl))
  rw [← List.cons_append, ← List.append_assoc, trimSlashes, List.reverse_append,
    List.reverse_singleton, List.singleton_append,
    List.dropWhile_cons_of_neg (p := (· == slash)) hc, List.reverse_cons, List.reverse_reverse]

/-- The directory in which a path names something is the one that the rest of it leads to. -/
theorem follow_of_resolveName {s : Store} {d name : Text} (hslash : slash ∉ name) (hne : name ≠ [])
    {p : Place} {a : Text} (h : s.resolveName (d ++ slash :: name) = .ok (p, a)) :
    a = name ∧ pathRefusal? (d ++ slash :: name) = none ∧
      (nameList d).foldlM s.step (s.origin (d ++ slash :: name)) = .ok p := by
  unfold resolveName at h
  rw [trimSlashes_name hslash hne, splitPath_eq hslash] at h
  cases hpath : pathRefusal? (d ++ slash :: name) with
  | some r =>
    rw [hpath] at h
    cases h
  | none =>
    rw [hpath] at h
    simp only [bind, Except.bind] at h
    split at h
    · cases h
    next q hfollow =>
    split at h
    · cases h
    · cases h
    next hdir =>
    cases h
    refine ⟨rfl, rfl, ?_⟩
    -- slashes at the end of the directory lead nowhere else
    have hall : (nameList (d ++ [slash])).foldlM s.step (s.origin (d ++ slash :: name)) =
        .ok p := by
      split at hfollow
      · exact hfollow
      · obtain ⟨u, hu, hslashes⟩ := trimSlashes_append (d ++ [slash])
        cases u with
        | nil =>
          rw [List.append_nil] at hu
          rw [hu]
          exact hfollow
        | cons c u =>
          rw [List.all_cons, Bool.and_eq_true, beq_iff_eq] at hslashes
          rw [hu, hslashes.1, nameList_append_slash]
          exact follow_append.mpr ⟨p, hfollow, follow_slashes hdir hslashes.2⟩
    rw [nameList_append_slash] at hall
    obtain ⟨r, hr, hlast⟩ := follow_append.mp hall
    obtain ⟨r', hstep, hend⟩ := follow_cons.mp hlast
    obtain rfl := Except.ok.inj hend
    obtain rfl : r' = r := (step_eq_ok hstep).2
    exact hr

/-! ## Absolute paths -/

theorem stepName_name {p : Place} {n : Text} (h : isProperName n = true) :
    stepName p n = p ++ [n] := by
  obtain ⟨hnil, hdot, hdots⟩ := of_decide_eq_true h
  rw [stepName, if_neg (not_or.mpr ⟨hnil, hdot⟩), if_neg hdots]

/-- Proper names are added one after the other. -/
theorem foldl_stepName {names : List Text} (h : ∀ n ∈ names, isProperName n = true) (p : Place) :
    names.foldl stepName p = p ++ names := by
  induction names generalizing p with
  | nil => rw [List.foldl_nil, List.append_nil]
  | cons n names ih =>
    rw [List.foldl_cons, stepName_name (h n List.mem_cons_self),
      ih fun m hm => h m (List.mem_cons_of_mem _ hm), List.append_assoc, List.singleton_append]

/-- Only proper names are added. -/
theorem isProperName_of_foldl_stepName {names : List Text} {p : Place} {n : Text}
    (h : n ∈ names.foldl stepName p) : n ∈ p ∨ n ∈ names ∧ isProperName n = true := by
  induction names generalizing p with
  | nil => exact Or.inl h
  | cons m names ih =>
    rw [List.foldl_cons] at h
    rcases ih h with h | ⟨h, hproper⟩
    · unfold stepName at h
      split at h
      · exact Or.inl h
      · next hm =>
        split at h
        · exact Or.inl (List.dropLast_subset _ h)
        · next hdots =>
          rcases List.mem_append.mp h with h | h
          · exact Or.inl h
          · rw [List.mem_singleton.mp h]
            rw [not_or] at hm
            exact Or.inr ⟨List.mem_cons_self, decide_eq_true ⟨hm.1, hm.2, hdots⟩⟩
    · exact Or.inr ⟨List.mem_cons_of_mem _ h, hproper⟩

theorem mem_join {names : List Text} {c : CodePoint} (h : c ∈ Text.join [slash] names) :
    c = slash ∨ ∃ n ∈ names, c ∈ n := by
  induction names with
  | nil => exact absurd h List.not_mem_nil
  | cons n names ih =>
    cases names with
    | nil => exact Or.inr ⟨n, List.mem_cons_self, h⟩
    | cons m names =>
      rw [Text.join_cons _ _ (List.cons_ne_nil m names), List.append_assoc, List.mem_append,
        List.mem_append, List.mem_singleton] at h
      rcases h with h | h | h
      · exact Or.inr ⟨n, List.mem_cons_self, h⟩
      · exact Or.inl h
      · rcases ih h with h | ⟨k, hk, hc⟩
        · exact Or.inl h
        · exact Or.inr ⟨k, List.mem_cons_of_mem _ hk, hc⟩

theorem length_le_join {names : List Text} {n : Text} (h : n ∈ names) :
    n.length ≤ (Text.join [slash] names).length := by
  induction names with
  | nil => exact absurd h List.not_mem_nil
  | cons m names ih =>
    cases names with
    | nil =>
      rw [List.mem_singleton.mp h]
      exact Nat.le_refl _
    | cons k names =>
      rw [Text.join_cons _ _ (List.cons_ne_nil k names), List.length_append, List.length_append]
      rcases List.mem_cons.mp h with rfl | h
      · omega
      · have := ih h
        omega

namespace Tree

variable {s : Store}

/-- The names of a path that begins in the working directory lead to the same place from the root,
behind the names of the working directory. -/
theorem foldl_joinPath (hs : s.Tree) (path : Text) :
    (nameList (joinPath s.workingPath path)).foldl stepName [] =
      (nameList path).foldl stepName (s.origin path) := by
  by_cases habsolute : path.head? = some slash
  · rw [joinPath, if_pos habsolute, origin, if_pos habsolute]
  · rw [joinPath, if_neg habsolute, origin, if_neg habsolute, workingPath]
    by_cases hroot : s.working = []
    · rw [hroot]
      rfl
    · have hnames := nameList_join hroot fun n hn => (hs.working n hn).2.1
      have hlast : ¬ (slash :: Text.join [slash] s.working).getLast? = some slash := by
        intro he
        obtain ⟨d, hd⟩ := List.getLast?_eq_some_iff.mp he
        have hsplit := congrArg nameList hd
        rw [nameList_slash, hnames, nameList_append_slash] at hsplit
        obtain ⟨front, n, hwork⟩ : ∃ front n, s.working = front ++ [n] :=
          ⟨_, _, (List.dropLast_concat_getLast hroot).symm⟩
        rw [hwork, ← List.cons_append] at hsplit
        have hempty : n = [] := (List.cons.inj (List.append_inj_right' hsplit rfl)).1
        have hname := (hs.working n (by rw [hwork]; simp)).1
        rw [hempty] at hname
        cases hname
      rw [if_neg (not_or.mpr ⟨List.cons_ne_nil _ _, hlast⟩), List.cons_append, nameList_slash,
        nameList_append_slash, hnames, List.foldl_cons, List.foldl_append,
        foldl_stepName fun n hn => (hs.working n hn).1]
      rfl

/-- What a path leads to is named properly. -/
theorem isName_of_resolve (hs : s.Tree) {path : Text} {p : Place} (h : s.resolve path = .ok p) :
    ∀ n ∈ p, IsName n := by
  intro n hn
  obtain ⟨hrefusal, hfollow⟩ := resolve_eq_ok.mp h
  have hzero : .char '\x00' ∉ path := by
    unfold pathRefusal? at hrefusal
    split at hrefusal
    · cases hrefusal
    · next hz => exact hz
  rw [follow_eq hfollow] at hn
  rcases isProperName_of_foldl_stepName hn with hn | ⟨hn, hproper⟩
  · unfold origin at hn
    split at hn
    · cases hn
    · exact hs.working n hn
  · exact ⟨hproper, slash_not_mem_of_nameList hn, fun hc => hzero (mem_of_mem_nameList hn hc)⟩

/-- **The absolute path** of a path that leads anywhere spells the place that it leads to. -/
theorem absolutePath_of_resolve (hs : s.Tree) {path : Text} {p : Place}
    (h : s.resolve path = .ok p) :
    ∃ slashes, slashes ≠ [] ∧
      absolutePath s.workingPath path = slashes ++ Text.join [slash] p := by
  have hplace := follow_eq (resolve_eq_ok.mp h).2
  have hnames : ∀ n ∈ p, .char '\x00' ∉ n := fun n hn => (hs.isName_of_resolve h n hn).2.2
  have hwhole (k : Nat) : (List.replicate k slash ++ Text.join [slash] p).takeWhile
      (· != .char '\x00') = List.replicate k slash ++ Text.join [slash] p := by
    rw [List.takeWhile_eq_self_iff]
    intro c hc
    rw [bne_iff_ne]
    rintro rfl
    rcases List.mem_append.mp hc with hc | hc
    · exact absurd (List.eq_of_mem_replicate hc) (by decide)
    · rcases mem_join hc with he | ⟨n, hn, hc⟩
      · exact absurd he (by decide)
      · exact hnames n hn hc
  unfold absolutePath normalPath
  rw [hs.foldl_joinPath, ← hplace]
  dsimp only
  split
  · exact ⟨List.replicate 2 slash, by simp, hwhole 2⟩
  · exact ⟨List.replicate 1 slash, by simp, hwhole 1⟩

end Tree

end LineSift.Store
