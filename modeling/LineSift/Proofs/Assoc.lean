import Mathlib.Data.List.Induction
import Mathlib.Data.List.Nodup
import LineSift.Assoc

/-!
# What a table of assignments holds

A table that assignments are put into one after the other has the names in the order in which they
were first assigned, each with the value that was assigned to it last (`lastAtFirst_ofList`).
-/

namespace LineSift

theorem nodup_eraseDups {α : Type} [BEq α] [LawfulBEq α] (l : List α) : l.eraseDups.Nodup := by
  induction hlength : l.length using Nat.strongRecOn generalizing l with
  | _ n ih =>
    cases l with
    | nil => exact List.nodup_nil
    | cons a l =>
      rw [List.eraseDups_cons]
      have hle := (List.filter_sublist (l := l) (p := fun b => !b == a)).length_le
      rw [List.length_cons] at hlength
      refine List.nodup_cons.mpr ⟨fun hmem => ?_, ih _ (by omega) _ rfl⟩
      simpa using List.mem_eraseDups.mp hmem

theorem eraseDups_of_nodup {α : Type} [BEq α] [LawfulBEq α] {l : List α} (h : l.Nodup) :
    l.eraseDups = l := by
  induction l with
  | nil => rfl
  | cons a l ih =>
    obtain ⟨ha, hl⟩ := List.nodup_cons.mp h
    have hfilter : l.filter (fun b => !b == a) = l :=
      List.filter_eq_self.mpr fun b hb => by simpa using ne_of_mem_of_not_mem hb ha
    rw [List.eraseDups_cons, hfilter, ih hl]

namespace Assoc

variable {α β : Type}

@[simp]
theorem keys_cons (k : Text) (v : α) (table : Assoc α) :
    keys ((k, v) :: table) = k :: keys table := rfl

theorem keys_put (key : Text) (value : α) (table : Assoc α) :
    keys (put key value table) =
      if key ∈ keys table then keys table else keys table ++ [key] := by
  induction table with
  | nil => rfl
  | cons p table ih =>
    obtain ⟨k, v⟩ := p
    by_cases h : k = key
    · subst h
      simp [put]
    · rw [put, if_neg h, keys_cons, keys_cons, ih]
      by_cases hk : key ∈ keys table
      · rw [if_pos hk, if_pos (List.mem_cons_of_mem _ hk)]
      · rw [if_neg hk, if_neg (List.not_mem_cons_of_ne_of_not_mem (Ne.symm h) hk)]
        rfl

theorem has_iff_mem_keys (key : Text) (table : Assoc α) : has key table ↔ key ∈ keys table := by
  induction table with
  | nil => simp [has, get?, keys]
  | cons p table ih =>
    obtain ⟨k, v⟩ := p
    by_cases h : k = key
    · simp [has, get?, h]
    · have hhas : has key ((k, v) :: table) = has key table := by simp [has, get?, h]
      rw [hhas, ih, keys_cons, List.mem_cons, or_iff_right (Ne.symm h)]

/-- Behind the names that a table begins with, another name is put into the rest. -/
theorem put_append {key : Text} {before : Assoc α} (h : key ∉ keys before) (value : α)
    (rest : Assoc α) : put key value (before ++ rest) = before ++ put key value rest := by
  induction before with
  | nil => rfl
  | cons p before ih =>
    obtain ⟨hp, hbefore⟩ := List.ne_and_not_mem_of_not_mem_cons h
    rw [List.cons_append, put, if_neg hp.symm, ih hbefore, List.cons_append]

theorem put_of_not_mem {key : Text} {table : Assoc α} (h : key ∉ keys table) (value : α) :
    put key value table = table ++ [(key, value)] := by
  have hput := put_append h value []
  rwa [List.append_nil] at hput

theorem get?_append {key : Text} {before : Assoc α} (h : key ∉ keys before) (rest : Assoc α) :
    get? key (before ++ rest) = get? key rest := by
  induction before with
  | nil => rfl
  | cons p before ih =>
    obtain ⟨hp, hbefore⟩ := List.ne_and_not_mem_of_not_mem_cons h
    rw [List.cons_append, get?, if_neg hp.symm, ih hbefore]

/-- Where no name stands twice, each entry tells the value of its name. -/
theorem get?_of_mem {table : Assoc α} (h : (keys table).Nodup) {p : Text × α} (hp : p ∈ table) :
    get? p.1 table = some p.2 := by
  obtain ⟨before, after, rfl⟩ := List.append_of_mem hp
  have hbefore : p.1 ∉ keys before := by
    rw [keys, List.map_append, List.map_cons] at h
    exact fun hmem => (List.nodup_append.mp h).2.2 _ hmem _ List.mem_cons_self rfl
  rw [get?_append hbefore, get?, if_pos rfl]

theorem mem_put {key : Text} {value : α} {table : Assoc α} {p : Text × α}
    (h : p ∈ put key value table) : p ∈ table ∨ p.2 = value := by
  induction table with
  | nil =>
    rw [put, List.mem_singleton] at h
    exact .inr (by rw [h])
  | cons q table ih =>
    obtain ⟨k, v⟩ := q
    rw [put] at h
    split at h
    · rcases List.mem_cons.mp h with rfl | h
      · exact .inr rfl
      · exact .inl (List.mem_cons_of_mem _ h)
    · rcases List.mem_cons.mp h with rfl | h
      · exact .inl List.mem_cons_self
      · exact (ih h).imp_left (List.mem_cons_of_mem _)

theorem ofList_of_nodup {pairs : List (Text × α)} (h : (pairs.map (·.1)).Nodup) :
    ofList pairs = pairs := by
  induction pairs using List.reverseRecOn with
  | nil => rfl
  | append_singleton pairs p ih =>
    rw [List.map_append, List.map_singleton, List.nodup_append] at h
    have hnew : p.1 ∉ keys pairs := fun hmem => h.2.2 _ hmem _ List.mem_cons_self rfl
    have hstep : ofList (pairs ++ [p]) = put p.1 p.2 (ofList pairs) := by
      rw [ofList, List.foldl_append]
      rfl
    rw [hstep, ih h.1, put_of_not_mem hnew]

/-- A table has no other values than those assigned. -/
theorem mem_ofList {pairs : List (Text × α)} {p : Text × α} (h : p ∈ ofList pairs) :
    ∃ q ∈ pairs, q.2 = p.2 := by
  have hfold : ∀ (pairs : List (Text × α)) (table : Assoc α),
      p ∈ pairs.foldl (fun table q => put q.1 q.2 table) table →
      p ∈ table ∨ ∃ q ∈ pairs, q.2 = p.2 := by
    intro pairs
    induction pairs with
    | nil => exact fun table h => .inl h
    | cons q pairs ih =>
      intro table h
      rcases ih _ h with h | ⟨q', hq', hp⟩
      · exact (mem_put h).imp_right fun h => ⟨q, List.mem_cons_self, h.symm⟩
      · exact .inr ⟨q', List.mem_cons_of_mem _ hq', hp⟩
  exact (hfold pairs [] h).resolve_left List.not_mem_nil

/-- A table has the names of a list of assignments, each at its first place and with what was
assigned to it last.  The values of the table may be another form of the values assigned. -/
structure LastAtFirst (r : α → β → Prop) (pairs : List (Text × α)) (table : Assoc β) : Prop where
  keys_eq : table.keys = (pairs.map (·.1)).eraseDups
  get?_eq : ∀ key, Option.Rel r (pairs.reverse.lookup key) (table.get? key)

variable {r : α → β → Prop}

theorem LastAtFirst.nil : LastAtFirst r [] [] := ⟨rfl, fun _ => .none⟩

theorem LastAtFirst.mem_keys {pairs : List (Text × α)} {table : Assoc β}
    (h : LastAtFirst r pairs table) {key : Text} : key ∈ table.keys ↔ key ∈ pairs.map (·.1) := by
  rw [h.keys_eq, List.mem_eraseDups]

/-- One more assignment is put into the table. -/
theorem LastAtFirst.put {pairs : List (Text × α)} {table : Assoc β} (h : LastAtFirst r pairs table)
    (key : Text) {a : α} {b : β} (hab : r a b) :
    LastAtFirst r (pairs ++ [(key, a)]) (table.put key b) where
  keys_eq := by
    rw [keys_put, List.map_append, List.eraseDups_append, ← h.keys_eq]
    by_cases hk : key ∈ table.keys
    · have hseen : key ∈ pairs.map (·.1) := h.mem_keys.mp hk
      simp [hk, List.removeAll, hseen]
    · have hnew : key ∉ pairs.map (·.1) := mt h.mem_keys.mpr hk
      simp [hk, List.removeAll, hnew, List.eraseDups_cons]
  get?_eq k := by
    rw [List.reverse_append, List.reverse_singleton, List.singleton_append, List.lookup_cons,
      get?_put]
    by_cases hk : key = k
    · subst hk
      rw [if_pos rfl, beq_self_eq_true]
      exact .some hab
    · rw [if_neg hk, beq_eq_false_iff_ne.mpr (Ne.symm hk)]
      exact h.get?_eq k

/-- A list of assignments makes the table that holds them. -/
theorem lastAtFirst_ofList (pairs : List (Text × α)) : LastAtFirst Eq pairs (ofList pairs) := by
  have hfold : ∀ (pairs before : List (Text × α)) (table : Assoc α), LastAtFirst Eq before table →
      LastAtFirst Eq (before ++ pairs)
        (pairs.foldl (fun table q => Assoc.put q.1 q.2 table) table) := by
    intro pairs
    induction pairs with
    | nil =>
      intro before table h
      rwa [List.append_nil]
    | cons p pairs ih =>
      intro before table h
      rw [List.append_cons]
      exact ih _ _ (h.put p.1 rfl)
  exact hfold pairs [] [] .nil

theorem mem_of_get? {table : Assoc α} {key : Text} {value : α} (h : get? key table = some value) :
    (key, value) ∈ table := by
  induction table with
  | nil => cases h
  | cons p table ih =>
    obtain ⟨k, v⟩ := p
    rw [get?] at h
    split at h
    · next hk =>
      obtain rfl := Option.some.inj h
      rw [hk]
      exact List.mem_cons_self
    · exact List.mem_cons_of_mem _ (ih h)

/-- Tables with the same values hold the same entries. -/
theorem perm_of_get? {s t : Assoc α} (hs : (keys s).Nodup) (ht : (keys t).Nodup)
    (h : ∀ key, get? key s = get? key t) : s.Perm t := by
  refine (List.perm_ext_iff_of_nodup (List.Nodup.of_map _ hs) (List.Nodup.of_map _ ht)).mpr
    fun p => ⟨fun hp => ?_, fun hp => ?_⟩
  · exact mem_of_get? ((h p.1).symm.trans (get?_of_mem hs hp))
  · exact mem_of_get? ((h p.1).trans (get?_of_mem ht hp))

/-- Tables with the same values and their names in the same order are the same. -/
theorem eq_of_get? {s t : Assoc α} (hs : (keys s).Nodup) (hkeys : keys s = keys t)
    (h : ∀ key, get? key s = get? key t) : s = t := by
  have hlength : s.length = t.length := by simpa [keys] using congrArg List.length hkeys
  refine List.ext_getElem hlength fun i hi hi' => ?_
  have hkey : s[i].1 = t[i].1 := by
    have hmap := congrArg (·[i]?) hkeys
    simpa [keys, hi, hi'] using hmap
  have hvalue := get?_of_mem hs (List.getElem_mem hi)
  rw [h, hkey, get?_of_mem (hkeys ▸ hs) (List.getElem_mem hi')] at hvalue
  exact Prod.ext hkey (Option.some.inj hvalue).symm

theorem LastAtFirst.nodup_keys {pairs : List (Text × α)} {table : Assoc β}
    (h : LastAtFirst r pairs table) : (keys table).Nodup := by
  rw [h.keys_eq]
  exact nodup_eraseDups _

/-- Where the same was assigned last, the values are the same. -/
theorem LastAtFirst.get?_congr (hr : ∀ a b b', r a b → r a b' → b = b')
    {pairs pairs' : List (Text × α)}
    {s t : Assoc β} (hs : LastAtFirst r pairs s) (ht : LastAtFirst r pairs' t)
    (h : ∀ key, pairs.reverse.lookup key = pairs'.reverse.lookup key) (key : Text) :
    get? key s = get? key t := by
  have hs := hs.get?_eq key
  have ht := ht.get?_eq key
  rw [h key] at hs
  generalize pairs'.reverse.lookup key = assigned, get? key s = x, get? key t = y at hs ht
  cases hs with
  | none =>
    cases ht
    rfl
  | some hab =>
    cases ht with
    | some hab' => rw [hr _ _ _ hab hab']

theorem LastAtFirst.unique (hr : ∀ a b b', r a b → r a b' → b = b') {pairs : List (Text × α)}
    {s t : Assoc β} (hs : LastAtFirst r pairs s) (ht : LastAtFirst r pairs t) : s = t :=
  eq_of_get? hs.nodup_keys (hs.keys_eq.trans ht.keys_eq.symm) (hs.get?_congr hr ht fun _ => rfl)

end Assoc

end LineSift
