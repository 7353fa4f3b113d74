import Mathlib.Data.List.Forall2

/-!
# Going through a list up to the first failure

A step that can fail is made for each element of a list.  Either it succeeds for all of them
(`mapM_eq_ok_iff`), or the first failure is that of the whole (`mapM_eq_error_iff`).
-/

namespace LineSift

section

variable {α β ε : Type} {f g : α → Except ε β} {as : List α}

theorem mapM_congr (h : ∀ a ∈ as, f a = g a) : as.mapM f = as.mapM g := by
  induction as with
  | nil => rfl
  | cons a as ih =>
    obtain ⟨ha, has⟩ := List.forall_mem_cons.mp h
    rw [List.mapM_cons, List.mapM_cons, ha, ih has]

theorem mapM_eq_ok_iff {bs : List β} :
    as.mapM f = .ok bs ↔ List.Forall₂ (fun a b => f a = .ok b) as bs := by
  constructor
  · intro h
    induction as generalizing bs with
    | nil =>
      cases h
      exact .nil
    | cons a as ih =>
      rw [List.mapM_cons] at h
      cases ha : f a with
      | error e =>
        rw [ha] at h
        cases h
      | ok b =>
        cases has : as.mapM f with
        | error e =>
          rw [ha, has] at h
          cases h
        | ok bs' =>
          rw [ha, has] at h
          cases h
          exact .cons ha (ih has)
  · intro h
    induction h with
    | nil => rfl
    | cons ha _ ih =>
      rw [List.mapM_cons, ha, ih]
      rfl

/-- A failure is that of the first that fails. -/
theorem mapM_eq_error_iff {e : ε} :
    as.mapM f = .error e ↔ ∃ before a after, as = before ++ a :: after ∧
      (∀ b ∈ before, ∃ x, f b = .ok x) ∧ f a = .error e := by
  constructor
  · intro h
    induction as with
    | nil => cases h
    | cons a as ih =>
      rw [List.mapM_cons] at h
      cases ha : f a with
      | error e' =>
        rw [ha] at h
        cases h
        exact ⟨[], a, as, rfl, List.forall_mem_nil _, ha⟩
      | ok b =>
        cases has : as.mapM f with
        | ok bs =>
          rw [ha, has] at h
          cases h
        | error e' =>
          rw [ha, has] at h
          cases h
          obtain ⟨before, a', after, rfl, hbefore, hfail⟩ := ih has
          exact ⟨a :: before, a', after, rfl, List.forall_mem_cons.mpr ⟨⟨b, ha⟩, hbefore⟩, hfail⟩
  · rintro ⟨before, a, after, rfl, hbefore, hfail⟩
    induction before with
    | nil =>
      rw [List.nil_append, List.mapM_cons, hfail]
      rfl
    | cons b before ih =>
      obtain ⟨⟨x, hx⟩, hbefore⟩ := List.forall_mem_cons.mp hbefore
      rw [List.cons_append, List.mapM_cons, hx, ih hbefore]
      rfl

/-- A failure is that of one of the elements. -/
theorem exists_of_mapM_error {e : ε} (h : as.mapM f = .error e) : ∃ a ∈ as, f a = .error e := by
  obtain ⟨before, a, after, rfl, -, ha⟩ := mapM_eq_error_iff.mp h
  exact ⟨a, List.mem_append_right _ List.mem_cons_self, ha⟩

/-- If each step succeeds in a certain way, all of them do. -/
theorem exists_mapM_ok {holds : α → β → Prop} (h : ∀ a ∈ as, ∃ b, f a = .ok b ∧ holds a b) :
    ∃ bs, as.mapM f = .ok bs ∧ List.Forall₂ holds as bs := by
  induction as with
  | nil => exact ⟨[], rfl, .nil⟩
  | cons a as ih =>
    obtain ⟨b, hb, hholds⟩ := h a List.mem_cons_self
    obtain ⟨bs, hbs, hall⟩ := ih fun x hx => h x (List.mem_cons_of_mem _ hx)
    refine ⟨b :: bs, ?_, .cons hholds hall⟩
    rw [List.mapM_cons, hb, hbs]
    rfl

/-! ## Lists that are related element by element -/

theorem exists_of_mem_of_forall₂ {R : α → β → Prop} {bs : List β} (h : List.Forall₂ R as bs) {b : β}
    (hb : b ∈ bs) : ∃ a ∈ as, R a b := by
  induction h with
  | nil => exact absurd hb List.not_mem_nil
  | cons hab _ ih =>
    rcases List.mem_cons.mp hb with rfl | hb
    · exact ⟨_, List.mem_cons_self, hab⟩
    · obtain ⟨a, ha, hR⟩ := ih hb
      exact ⟨a, List.mem_cons_of_mem _ ha, hR⟩

end

end LineSift
