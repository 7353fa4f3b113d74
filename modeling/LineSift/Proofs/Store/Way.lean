import LineSift.Proofs.Store.Replace

/-!
# The way to a directory

A path spells a place, whether anything stands there or not (`spelled`), and on its way there it
passes the places that its first names spell (`OnTheWay`).  Making a directory with those above it
makes nothing but directories on the way (`makeDirectories_paved`).

Two dots take a name back.  While they take back a directory that is not there the path leads
nowhere, and as soon as that directory is made it leads back into an old one.  A path whose dots
take back nothing but directories that are there (`IsStraight`) only leads further down behind them:
nothing new on its way lies below the place that it spells (`IsStraight.not_onTheWay`), and what it
leads to when directories have been made it led to before, if that was there
(`IsStraight.resolve_of_later`).
-/

namespace LineSift.Store

open Text (ofString)

/-- The place that a path spells. -/
def spelled (s : Store) (path : Text) : Place := (nameList path).foldl stepName (s.origin path)

/-- A place that the first names of a path spell. -/
def OnTheWay (s : Store) (path : Text) (p : Place) : Prop :=
  ∃ names, names <+: nameList path ∧ p = names.foldl stepName (s.origin path)

theorem spelled_of_resolve {s : Store} {path : Text} {p : Place} (h : s.resolve path = .ok p) :
    p = s.spelled path :=
  follow_eq (resolve_eq_ok.mp h).2

theorem origin_eq {s s' : Store} (h : s'.working = s.working) (path : Text) :
    s'.origin path = s.origin path := by
  simp only [origin, h]

theorem spelled_eq {s s' : Store} (h : s'.working = s.working) (path : Text) :
    s'.spelled path = s.spelled path := by
  simp only [spelled, origin_eq h]

theorem onTheWay_iff {s s' : Store} (h : s'.working = s.working) {path : Text} {p : Place} :
    s'.OnTheWay path p ↔ s.OnTheWay path p := by
  simp only [OnTheWay, origin_eq h]

/-! ## The paths of the directories above -/

theorem nameList_prefix (a : Text) {u : Text} (hu : u.all (· == slash) = true) :
    nameList a <+: nameList (a ++ u) := by
  cases u with
  | nil => simp
  | cons c u =>
    simp only [List.all_cons, Bool.and_eq_true, beq_iff_eq] at hu
    rw [hu.1, nameList_append_slash]
    apply List.prefix_append

/-- Slashes alone lead nowhere else. -/
theorem foldl_slashes {t : Text} (ht : t.all (· == slash) = true) {names : List Text}
    (h : names <+: nameList t) (p : Place) : names.foldl stepName p = p := by
  induction t generalizing names with
  | nil =>
    rcases List.prefix_cons_iff.mp h with rfl | ⟨names, rfl, hnames⟩
    · rfl
    · rw [List.prefix_nil.mp hnames]
      rfl
  | cons c t ih =>
    simp only [List.all_cons, Bool.and_eq_true, beq_iff_eq] at ht
    rw [ht.1, nameList_slash] at h
    rcases List.prefix_cons_iff.mp h with rfl | ⟨names, rfl, hnames⟩
    · rfl
    · exact (ih ht.2 hnames :)

theorem OnTheWay.longer {s : Store} {a path : Text} {p : Place} (h : s.OnTheWay a p) (ha : a ≠ [])
    (hpath : a <+: path) (hnames : nameList a <+: nameList path) : s.OnTheWay path p := by
  obtain ⟨names, hprefix, rfl⟩ := h
  have horigin : s.origin a = s.origin path := by
    obtain ⟨u, rfl⟩ := hpath
    cases a with
    | nil => exact absurd rfl ha
    | cons c a => rfl
  exact ⟨names, hprefix.trans hnames, by rw [horigin]⟩

/-- Slashes at the end of a path do not matter. -/
theorem OnTheWay.of_trimSlashes {s : Store} {path : Text} {p : Place}
    (h : s.OnTheWay (trimSlashes path) p) (hne : trimSlashes path ≠ []) : s.OnTheWay path p := by
  obtain ⟨u, hu, hslashes⟩ := trimSlashes_append path
  have hnames := nameList_prefix (trimSlashes path) hslashes
  rw [← hu] at hnames
  exact h.longer hne ⟨u, hu.symm⟩ hnames

/-- A path has a last name, which stands behind a slash unless it is the whole path. -/
theorem exists_last_name (path : Text) :
    slash ∉ path ∨ ∃ d name, slash ∉ name ∧ path = d ++ slash :: name := by
  by_cases h : slash ∈ path
  · obtain ⟨a, b, hab, ha⟩ := List.eq_append_cons_of_mem (List.mem_reverse.mpr h)
    refine Or.inr ⟨b.reverse, a.reverse, fun hm => ha (List.mem_reverse.mp hm), ?_⟩
    rw [← List.reverse_reverse path, hab]
    simp
  · exact Or.inl h

theorem trimSlashes_concat (d : Text) : trimSlashes (d ++ [slash]) = trimSlashes d := by
  simp [trimSlashes]

theorem onTheWay_splitPath {s : Store} {path : Text} {p : Place} (hne : (splitPath path).1 ≠ [])
    (h : s.OnTheWay (splitPath path).1 p) : s.OnTheWay path p := by
  rcases exists_last_name path with hslash | ⟨d, name, hslash, rfl⟩
  · have hall : ∀ c ∈ path.reverse, (c != slash) = true := by
      intro c hc
      rw [bne_iff_ne]
      rintro rfl
      exact hslash (List.mem_reverse.mp hc)
    have hnone : (splitPath path).1 = [] := by
      simp [splitPath, List.takeWhile_eq_self_iff.mpr hall]
    exact absurd hnone hne
  · rw [splitPath_eq hslash] at h hne
    dsimp only at h hne
    have hnames : nameList (d ++ slash :: name) = nameList d ++ [name] := by
      rw [nameList_append_slash, nameList_name hslash]
    split at h
    · next hall =>
      obtain ⟨names, hprefix, rfl⟩ := h
      rw [foldl_slashes hall hprefix]
      refine ⟨[], List.nil_prefix, ?_⟩
      -- both paths begin with a slash
      have horigin : s.origin (d ++ [slash]) = s.origin (d ++ slash :: name) := by
        cases d <;> rfl
      rw [horigin, List.foldl_nil]
    · next hall =>
      rw [if_neg hall] at hne
      rw [trimSlashes_concat] at h hne
      have hd : d ≠ [] := by
        rintro rfl
        exact hne rfl
      refine (h.of_trimSlashes hne).longer hd (List.prefix_append _ _) ?_
      rw [hnames]
      apply List.prefix_append

theorem onTheWay_parentPath {s : Store} {path : Text} {p : Place} (hne : (parentPath path).1 ≠ [])
    (h : s.OnTheWay (parentPath path).1 p) : s.OnTheWay path p := by
  unfold parentPath at h hne
  dsimp only at h hne
  split at h
  · next hname =>
    rw [if_pos hname] at hne
    refine onTheWay_splitPath ?_ (onTheWay_splitPath hne h)
    intro hnil
    rw [hnil] at hne
    exact hne rfl
  · next hname =>
    rw [if_neg hname] at hne
    exact onTheWay_splitPath hne h

/-! ## Making the directories of a path -/

/-- Directories on the way of a path were made, and nothing else has happened to the store. -/
structure Paved (path : Text) (s s' : Store) : Prop extends Grown s s' where
  way : ∀ p, s'.node? p ≠ none → s.node? p ≠ none ∨ s.OnTheWay path p

namespace Paved

variable {path : Text} {s s' s'' : Store}

theorem refl (path : Text) (s : Store) : Paved path s s := ⟨.refl s, fun _ => Or.inl⟩

theorem trans (h : Paved path s s') (h' : Paved path s' s'') : Paved path s s'' where
  toGrown := h.toGrown.trans h'.toGrown
  way := by
    intro p hp
    rcases h'.way p hp with hp | hp
    · exact h.way p hp
    · exact Or.inr ((onTheWay_iff h.working).mp hp)

theorem longer {a : Text} (h : Paved a s s') (hway : ∀ p, s.OnTheWay a p → s.OnTheWay path p) :
    Paved path s s' :=
  ⟨h.toGrown, fun p hp => (h.way p hp).imp_right (hway p)⟩

end Paved

theorem makeDirectory_paved (path : Text) : Effect.Within (Paved path) (makeDirectory path) := by
  intro s
  refine ⟨makeDirectory_grown path s, fun p hp => ?_⟩
  rw [makeDirectory_apply] at hp
  split at hp
  · exact Or.inl hp
  · next q hq =>
    split at hp
    · exact Or.inl hp
    · next hnone =>
      rw [node?_put (ne_nil_of_node? (by simpa using hnone))] at hp
      split at hp
      · next he =>
        refine Or.inr ?_
        rw [he, spelled_of_resolve hq]
        split
        · exact ⟨_, List.prefix_rfl, rfl⟩
        · next hplain => exact OnTheWay.of_trimSlashes ⟨_, List.prefix_rfl, rfl⟩ hplain
      · exact Or.inl hp

/-- **Making directories** makes those on the way that are not there, and does nothing else. -/
theorem makeDirectories_paved (path : Text) :
    Effect.Within (Paved path) (makeDirectories path) :=
  makeDirectories_within .refl (fun _ _ _ _ => .trans)
    (fun _ _ _ hne h => h.longer fun _ => onTheWay_parentPath hne) makeDirectory_paved path

/-! ## Dots that take back what is there -/

/-- Names of which two dots take back nothing but names of directories that are there. -/
def StraightFrom (s : Store) (p : Place) (names : List Text) : Prop :=
  ∃ known new q, names = known ++ new ∧ known.foldlM s.step p = .ok q ∧ ofString ".." ∉ new

/-- A path on which two dots take back nothing but directories that are there. -/
def IsStraight (s : Store) (path : Text) : Prop := s.StraightFrom (s.origin path) (nameList path)

theorem isDirectory_iff {s : Store} {path : Text} :
    s.isDirectory path = true ↔ ∃ p, s.resolve path = .ok p ∧ s.node? p = some .directory := by
  unfold isDirectory find?
  cases s.resolve path <;> simp

theorem isStraight_of_isDirectory {s : Store} {path : Text} (h : s.isDirectory path = true) :
    s.IsStraight path := by
  obtain ⟨p, hp, -⟩ := isDirectory_iff.mp h
  exact ⟨nameList path, [], p, by simp, (resolve_eq_ok.mp hp).2, by simp⟩

theorem isStraight_of_not_mem (s : Store) {path : Text} (h : ofString ".." ∉ nameList path) :
    s.IsStraight path :=
  ⟨[], nameList path, _, rfl, rfl, h⟩

/-- Without two dots names only lead further down. -/
theorem prefix_foldl_stepName {names : List Text} (h : ofString ".." ∉ names) (p : Place) :
    p <+: names.foldl stepName p := by
  induction names generalizing p with
  | nil => exact List.prefix_rfl
  | cons n names ih =>
    rw [List.mem_cons, not_or] at h
    have hstep : p <+: stepName p n := by
      unfold stepName
      split
      · exact List.prefix_rfl
      · rw [if_neg (Ne.symm h.1)]
        apply List.prefix_append
    exact hstep.trans (ih h.2 _)

/-- What names lead through is a directory. -/
theorem follow_through {s : Store} {p q : Place} {names : List Text} {n : Text} {more : List Text}
    (h : (names ++ n :: more).foldlM s.step p = .ok q) :
    s.node? (names.foldl stepName p) = some .directory := by
  obtain ⟨r, hr, hmore⟩ := follow_append.mp h
  obtain ⟨t, ht, -⟩ := follow_cons.mp hmore
  rw [← follow_eq hr]
  exact (step_eq_ok ht).1

namespace StraightFrom

variable {s : Store} {p : Place} {names front : List Text}

theorem shorter (h : s.StraightFrom p names) (hfront : front <+: names) :
    s.StraightFrom p front := by
  obtain ⟨known, new, q, rfl, hq, hnew⟩ := h
  obtain ⟨rest, hrest⟩ := hfront
  rcases List.append_eq_append_iff.mp hrest with ⟨t, rfl, rfl⟩ | ⟨t, rfl, rfl⟩
  · obtain ⟨r, hr, -⟩ := follow_append.mp hq
    exact ⟨front, [], r, by simp, hr, by simp⟩
  · exact ⟨known, t, q, rfl, hq, fun ht => hnew (List.mem_append_left _ ht)⟩

/-- A place on the way is a directory that is there, or it lies above the last one. -/
theorem passes (h : s.StraightFrom p names) (hfront : front <+: names) :
    s.node? (front.foldl stepName p) = some .directory ∨
      front.foldl stepName p <+: names.foldl stepName p := by
  obtain ⟨known, new, q, rfl, hq, hnew⟩ := h
  obtain ⟨rest, hrest⟩ := hfront
  rcases List.append_eq_append_iff.mp hrest with ⟨t, rfl, rfl⟩ | ⟨t, rfl, rfl⟩
  · cases t with
    | nil =>
      right
      rw [List.append_nil, List.foldl_append]
      exact prefix_foldl_stepName hnew _
    | cons n t => exact Or.inl (follow_through hq)
  · right
    rw [← List.append_assoc, List.foldl_append (l := known ++ t)]
    exact prefix_foldl_stepName (fun hr => hnew (List.mem_append_right _ hr)) _

end StraightFrom

/-- What names lead to when directories have been made they led to before, if it was there. -/
theorem follow_of_later {s s' : Store} {p r : Place} {names : List Text}
    (hnames : ofString ".." ∉ names)
    (h : names.foldlM s'.step p = .ok r) (hthere : ∀ q, q <+: r → s.node? q = some .directory) :
    names.foldlM s.step p = .ok r := by
  induction names generalizing p with
  | nil => exact h
  | cons n names ih =>
    rw [List.mem_cons, not_or] at hnames
    obtain ⟨q, hq, hrest⟩ := follow_cons.mp h
    have hdown : p <+: r := by
      rw [follow_eq h]
      apply prefix_foldl_stepName
      rw [List.mem_cons, not_or]
      exact hnames
    exact follow_cons.mpr ⟨q, step_mono hq (hthere p hdown), ih hnames.2 hrest⟩

/-- What stands above something is a directory. -/
theorem Tree.above {s : Store} (hs : s.Tree) {p t : Place} {n : Node} (ht : t ≠ [])
    (h : s.node? (p ++ t) = some n) : s.node? p = some .directory := by
  induction t using List.reverseRecOn generalizing n with
  | nil => exact absurd rfl ht
  | append_singleton t k ih =>
    have hparent := hs.parent h
    rw [← List.append_assoc, List.dropLast_concat] at hparent
    by_cases hnil : t = []
    · rw [hnil, List.append_nil] at hparent
      exact hparent
    · exact ih hnil hparent

/-! ## A name behind a directory -/

section Join

variable {s : Store} {directory name : Text}

/-- A name behind a directory is the last name of the path; the other names are those of the
directory, but for an empty one where it ends in a slash. -/
theorem nameList_joinPath (s : Store) (directory : Text) (hslash : slash ∉ name) :
    ∃ front, nameList (joinPath directory name) = front ++ [name] ∧
      s.origin (joinPath directory name) = s.origin directory ∧
      (nameList directory = front ∨ nameList directory = front ++ [[]]) := by
  have hhead : ¬ name.head? = some slash := fun he => hslash (List.mem_of_mem_head? he)
  by_cases hdir : directory = []
  · subst hdir
    have hpath : joinPath [] name = name := by
      rw [joinPath, if_neg hhead, if_pos (Or.inl rfl), List.nil_append]
    refine ⟨[], ?_, ?_, Or.inr rfl⟩
    · rw [hpath, nameList_name hslash, List.nil_append]
    · rw [hpath, origin, if_neg hhead]
      rfl
  by_cases hlast : directory.getLast? = some slash
  · obtain ⟨d, rfl⟩ := List.getLast?_eq_some_iff.mp hlast
    have hpath : joinPath (d ++ [slash]) name = d ++ slash :: name := by
      rw [joinPath, if_neg hhead, if_pos (Or.inr hlast), List.append_assoc, List.singleton_append]
    refine ⟨nameList d, ?_, ?_, Or.inr (nameList_append_slash d [])⟩
    · rw [hpath, nameList_append_slash, nameList_name hslash]
    · rw [hpath]
      apply origin_name
  · have hpath : joinPath directory name = directory ++ slash :: name := by
      rw [joinPath, if_neg hhead, if_neg (not_or.mpr ⟨hdir, hlast⟩)]
    refine ⟨nameList directory, ?_, ?_, Or.inl rfl⟩
    · rw [hpath, nameList_append_slash, nameList_name hslash]
    · rw [hpath, origin, origin, List.head?_append]
      cases directory with
      | nil => exact absurd rfl hdir
      | cons c directory => rfl

theorem spelled_joinPath (s : Store) (directory : Text) (hslash : slash ∉ name)
    (hproper : isProperName name = true) :
    s.spelled (joinPath directory name) = s.spelled directory ++ [name] := by
  obtain ⟨front, hnames, horigin, hdir⟩ := nameList_joinPath s directory hslash
  have hfront : front.foldl stepName (s.origin directory) = s.spelled directory := by
    rcases hdir with hdir | hdir
    · rw [spelled, hdir]
    · rw [spelled, hdir, List.foldl_append]
      rfl
  rw [spelled, hnames, horigin, List.foldl_append, hfront]
  exact stepName_name hproper

theorem pathRefusal?_of_append {a b : Text} (ha : a ≠ []) (h : pathRefusal? (a ++ b) = none) :
    pathRefusal? a = none := by
  unfold pathRefusal? at h ⊢
  rw [if_neg ha]
  split at h
  · cases h
  next hzero =>
  split at h
  · cases h
  split at h
  · cases h
  next hlong =>
  have hlength : (Encoding.encode a).length ≤ (Encoding.encode (a ++ b)).length := by
    rw [Encoding.encode, Encoding.encode, List.flatMap_append, List.length_append]
    apply Nat.le_add_right
  rw [if_neg fun hm => hzero (List.mem_append_left _ hm), if_neg (by omega)]

/-- What stands behind a directory stands in it. -/
theorem isDirectory_of_resolve (hdir : directory ≠ []) (hslash : slash ∉ name) {p : Place}
    (h : s.resolve (joinPath directory name) = .ok p) : s.isDirectory directory = true := by
  obtain ⟨front, hnames, horigin, hfront⟩ := nameList_joinPath s directory hslash
  obtain ⟨hpath, hfollow⟩ := resolve_eq_ok.mp h
  rw [horigin, hnames] at hfollow
  obtain ⟨r, hr, hlast⟩ := follow_append.mp hfollow
  obtain ⟨t, ht, -⟩ := follow_cons.mp hlast
  have hthere := (step_eq_ok ht).1
  have hpath' : pathRefusal? directory = none := by
    obtain ⟨b, hb⟩ : ∃ b, joinPath directory name = directory ++ b := by
      have hhead : ¬ name.head? = some slash := fun he => hslash (List.mem_of_mem_head? he)
      rw [joinPath, if_neg hhead]
      split
      · exact ⟨name, rfl⟩
      · exact ⟨slash :: name, rfl⟩
    rw [hb] at hpath
    exact pathRefusal?_of_append hdir hpath
  have hresolve : s.resolve directory = .ok r := by
    refine resolve_eq_ok.mpr ⟨hpath', ?_⟩
    rcases hfront with hfront | hfront
    · rw [hfront]
      exact hr
    · rw [hfront]
      have hstep := follow_slashes hthere (t := []) rfl
      exact follow_append.mpr ⟨r, hr, hstep⟩
  exact isDirectory_iff.mpr ⟨r, hresolve, hthere⟩

/-- On the way to a straight directory nothing new lies below it. -/
theorem IsStraight.not_onTheWay (h : s.IsStraight directory)
    (hnone : s.node? (s.spelled directory ++ [name]) = none) :
    ¬ s.OnTheWay directory (s.spelled directory ++ [name]) := by
  rintro ⟨front, hfront, he⟩
  rcases h.passes hfront with hdir | habove
  · rw [← he, hnone] at hdir
    cases hdir
  · rw [← he] at habove
    exact absurd habove.length_le (by simp [spelled])

/-- **What a path leads to later**, behind a straight directory, it leads to from the beginning if
that is there. -/
theorem IsStraight.resolve_of_later {s' : Store} (hs : s.Tree) (h : s.IsStraight directory)
    (hworking : s'.working = s.working) (hslash : slash ∉ name) (hproper : isProperName name = true)
    {p : Place} (hp : s'.resolve (joinPath directory name) = .ok p) (hthere : s.node? p ≠ none) :
    s.resolve (joinPath directory name) = .ok p := by
  obtain ⟨front, hnames, horigin, hfront⟩ := nameList_joinPath s directory hslash
  have hprefix : front <+: nameList directory := by
    rcases hfront with hfront | hfront
    · exact hfront ▸ List.prefix_rfl
    · rw [hfront]
      apply List.prefix_append
  obtain ⟨known, new, q, rfl, hq, hnew⟩ := h.shorter hprefix
  obtain ⟨hpath, hfollow⟩ := resolve_eq_ok.mp hp
  rw [origin_eq hworking, horigin, hnames] at hfollow
  obtain ⟨r, hr, hlast⟩ := follow_append.mp hfollow
  obtain ⟨t, ht, hend⟩ := follow_cons.mp hlast
  obtain rfl : t = p := Except.ok.inj hend
  obtain rfl : t = r ++ [name] := (step_eq_ok ht).2.trans (stepName_name hproper)
  obtain ⟨n, hn⟩ := Option.ne_none_iff_exists'.mp hthere
  have habove {q : Place} (hqr : q <+: r) : s.node? q = some .directory := by
    obtain ⟨t, rfl⟩ := hqr
    rw [List.append_assoc] at hn
    exact hs.above (by simp) hn
  obtain ⟨q', hq', hmore⟩ := follow_append.mp hr
  obtain rfl : q' = q := (follow_eq hq').trans (follow_eq hq).symm
  have hknown := follow_of_later hnew hmore fun q => habove
  have hstep := step_mono ht (habove List.prefix_rfl)
  refine resolve_eq_ok.mpr ⟨hpath, ?_⟩
  rw [horigin, hnames]
  exact follow_append.mpr ⟨r, follow_append.mpr ⟨q', hq, hknown⟩, follow_cons.mpr ⟨_, hstep, rfl⟩⟩

end Join

end LineSift.Store
