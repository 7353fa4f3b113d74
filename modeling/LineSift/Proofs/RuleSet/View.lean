import LineSift.Proofs.Text.Split
import LineSift.RuleSet.View

/-!
# What a reader sees of a template

Looking for a field in a part takes nothing away from what was written (`renderTemplates_cut`); the
texts that are left stand in the text of the part, and the template of the field is in none of them
(`mem_cut_text`).  So each field that is looked for keeps what the fields before it have reached
(`Viewed.cut`), and in the end the parts show the template as it was written, with every field found
wherever its template stands in what the fields before it have left (`view_lossless`).
-/

namespace LineSift.RuleSet

namespace Part

variable {f : Field} {isGlobal : Bool}

/-! ## Looking for one field -/

theorem interleave_of_ne_nil (p : Part) (t : Text) {ts : List Text} (h : ts ≠ []) :
    interleave p (t :: ts) = (if t = [] then [] else [.text t]) ++ p :: interleave p ts := by
  rw [interleave]
  exact h

theorem renderTemplates_text_or_nil (t : Text) :
    renderTemplates (if t = [] then [] else [.text t]) = t := by
  split
  · next h => exact h.symm
  · exact List.append_nil t

theorem renderTemplates_interleave (p : Part) (ts : List Text) :
    renderTemplates (interleave p ts) = Text.join p.byTemplate ts := by
  induction ts with
  | nil => rfl
  | cons t ts ih =>
    cases ts with
    | nil => exact renderTemplates_text_or_nil t
    | cons u us =>
      have hne : u :: us ≠ [] := List.cons_ne_nil u us
      rw [interleave_of_ne_nil _ _ hne, Text.join_cons _ _ hne, ← ih, renderTemplates,
        List.flatMap_append, List.flatMap_cons, List.append_assoc]
      exact congrArg (· ++ _) (renderTemplates_text_or_nil t)

theorem mem_interleave {p q : Part} {ts : List Text} (h : q ∈ interleave p ts) :
    q = p ∨ ∃ t ∈ ts, t ≠ [] ∧ q = .text t := by
  have htext (t : Text) (hm : q ∈ if t = [] then [] else [Part.text t]) : t ≠ [] ∧ q = .text t := by
    split at hm
    · exact absurd hm List.not_mem_nil
    · next hne => exact ⟨hne, List.mem_singleton.mp hm⟩
  induction ts with
  | nil => exact absurd h List.not_mem_nil
  | cons t ts ih =>
    cases ts with
    | nil => exact Or.inr ⟨t, List.mem_cons_self, htext t h⟩
    | cons u us =>
      rw [interleave_of_ne_nil _ _ (List.cons_ne_nil u us)] at h
      rcases List.mem_append.mp h with h | h
      · exact Or.inr ⟨t, List.mem_cons_self, htext t h⟩
      rcases List.mem_cons.mp h with h | h
      · exact Or.inl h
      · obtain hp | ⟨v, hv, hq⟩ := ih h
        · exact Or.inl hp
        · exact Or.inr ⟨v, List.mem_cons_of_mem _ hv, hq⟩

/-- Looking for a field takes nothing away from what was written. -/
theorem renderTemplates_cut (p : Part) : renderTemplates (cut f isGlobal p) = p.byTemplate := by
  cases p with
  | field g isGlobal' => exact List.append_nil _
  | text t =>
    rw [cut]
    split
    · exact List.append_nil t
    · next hf => exact (renderTemplates_interleave _ _).trans (Text.join_splitOn hf t)

/-- A text that is left stands in the text in which the field was looked for, is not empty unless
that was, and does not hold the field's template. -/
theorem mem_cut_text {p : Part} {u : Text} (h : .text u ∈ cut f isGlobal p) :
    ∃ t, p = .text t ∧ u <:+: t ∧ (u = [] → t = []) ∧ (f.template ≠ [] → ¬ f.template <:+: u) := by
  cases p with
  | field g isGlobal' => exact absurd (List.mem_singleton.mp h) (by simp)
  | text t =>
    rw [cut] at h
    split at h
    · next hf =>
      obtain rfl : u = t := by simpa using h
      exact ⟨u, rfl, List.infix_refl u, id, fun hne => absurd hf hne⟩
    · next hf =>
      obtain hu | ⟨v, hv, hne, hu⟩ := mem_interleave h
      · exact absurd hu (by simp)
      · obtain rfl : u = v := by simpa using hu
        exact ⟨t, rfl, Text.infix_of_mem_splitOn hf hv, fun hnil => absurd hnil hne,
          fun _ => Text.not_infix_of_mem_splitOn hf hv⟩

theorem mem_cut_field {p : Part} {g : Field} {isGlobal' : Bool}
    (h : .field g isGlobal' ∈ cut f isGlobal p) :
    p = .field g isGlobal' ∨ g = f ∧ isGlobal' = isGlobal ∧ f.template ≠ [] := by
  cases p with
  | field g' isGlobal'' => exact Or.inl (List.mem_singleton.mp h).symm
  | text t =>
    rw [cut] at h
    split at h
    · exact absurd h (by simp)
    · next hf =>
      obtain hg | ⟨v, -, -, hg⟩ := mem_interleave h
      · obtain ⟨rfl, rfl⟩ : g = f ∧ isGlobal' = isGlobal := by simpa using hg
        exact Or.inr ⟨rfl, rfl, hf⟩
      · exact absurd hg (by simp)

end Part

/-! ## Looking for one field after the other -/

/-- What is known of the parts of a text once some fields, each local or global, have been looked
for. -/
structure Viewed (t : Text) (looked : List (Field × Bool)) (ps : List Part) : Prop where
  /-- The parts are what was written. -/
  whole : renderTemplates ps = t
  /-- Empty texts are left out. -/
  filled : .text [] ∈ ps → t = []
  /-- No template of a field is left in the texts. -/
  searched : ∀ u, .text u ∈ ps → ∀ x ∈ looked, x.1.template ≠ [] → ¬ x.1.template <:+: u
  /-- What is shown as a field is one that has been looked for. -/
  found : ∀ f isGlobal, .field f isGlobal ∈ ps → (f, isGlobal) ∈ looked ∧ f.template ≠ []

theorem Viewed.text (t : Text) : Viewed t [] [.text t] where
  whole := List.append_nil t
  filled h := by simpa using h
  searched _ _ _ hx := absurd hx List.not_mem_nil
  found _ _ h := absurd h (by simp)

theorem Viewed.cut {t : Text} {looked : List (Field × Bool)} {ps : List Part}
    (h : Viewed t looked ps) (f : Field) (isGlobal : Bool) :
    Viewed t (looked ++ [(f, isGlobal)]) (ps.flatMap (Part.cut f isGlobal)) where
  whole := by
    rw [renderTemplates, List.flatMap_assoc]
    have hcut : (fun p => (Part.cut f isGlobal p).flatMap Part.byTemplate) = Part.byTemplate :=
      funext Part.renderTemplates_cut
    rw [hcut]
    exact h.whole
  filled hm := by
    obtain ⟨p, hp, hm⟩ := List.mem_flatMap.mp hm
    obtain ⟨v, rfl, -, hempty, -⟩ := Part.mem_cut_text hm
    exact h.filled (hempty rfl ▸ hp)
  searched u hm x hx hne := by
    obtain ⟨p, hp, hm⟩ := List.mem_flatMap.mp hm
    obtain ⟨v, rfl, hinfix, -, hnot⟩ := Part.mem_cut_text hm
    rcases List.mem_append.mp hx with hx | hx
    · exact fun hin => h.searched v hp x hx hne (hin.trans hinfix)
    · obtain rfl := List.mem_singleton.mp hx
      exact hnot hne
  found g isGlobal' hm := by
    obtain ⟨p, hp, hm⟩ := List.mem_flatMap.mp hm
    rcases Part.mem_cut_field hm with rfl | ⟨rfl, rfl, hne⟩
    · obtain ⟨hlooked, hne⟩ := h.found g isGlobal' hp
      exact ⟨List.mem_append_left _ hlooked, hne⟩
    · exact ⟨List.mem_append_right _ List.mem_cons_self, hne⟩

theorem Viewed.cutAll {t : Text} {looked : List (Field × Bool)} {ps : List Part}
    (h : Viewed t looked ps) (isGlobal : Bool) (fs : Assoc Field) :
    Viewed t (looked ++ fs.map fun x => (x.2, isGlobal)) (Part.cutAll isGlobal fs ps) := by
  induction fs generalizing looked ps with
  | nil =>
    rw [List.map_nil, List.append_nil]
    exact h
  | cons x fs ih =>
    rw [List.map_cons, List.append_cons]
    exact ih (h.cut x.2 isGlobal)

theorem viewed_view (r : Rules) (t : Text) :
    Viewed t (r.fields.map (fun x => (x.2, false)) ++ r.globals.map fun x => (x.2, true))
      (view r t) :=
  ((Viewed.text t).cutAll false r.fields).cutAll true r.globals

/-- **The view of a template is lossless and complete.**  With fields as their templates it is the
template; no text in it is empty unless the template is; no text holds the template of a field, be
it local or global; and what is shown as a field is one of the rules, global just if it is shown so,
and it has a template. -/
theorem view_lossless (r : Rules) (t : Text) :
    renderTemplates (view r t) = t ∧
      (.text [] ∈ view r t → t = []) ∧
      (∀ u, .text u ∈ view r t → ∀ x ∈ r.fields ++ r.globals, x.2.template ≠ [] →
        ¬ x.2.template <:+: u) ∧
      ∀ f isGlobal, .field f isGlobal ∈ view r t →
        (∃ x ∈ if isGlobal then r.globals else r.fields, x.2 = f) ∧ f.template ≠ [] := by
  have hview := viewed_view r t
  refine ⟨hview.whole, hview.filled, fun u hu x hx => ?_, fun f isGlobal hf => ?_⟩
  · rcases List.mem_append.mp hx with hx | hx
    · exact hview.searched u hu (x.2, false)
        (List.mem_append_left _ (List.mem_map.mpr ⟨x, hx, rfl⟩))
    · exact hview.searched u hu (x.2, true)
        (List.mem_append_right _ (List.mem_map.mpr ⟨x, hx, rfl⟩))
  · obtain ⟨hlooked, hne⟩ := hview.found f isGlobal hf
    refine ⟨?_, hne⟩
    rcases List.mem_append.mp hlooked with hx | hx
    · obtain ⟨x, hmem, heq⟩ := List.mem_map.mp hx
      obtain ⟨rfl, rfl⟩ := Prod.mk.inj heq
      exact ⟨x, hmem, rfl⟩
    · obtain ⟨x, hmem, heq⟩ := List.mem_map.mp hx
      obtain ⟨rfl, rfl⟩ := Prod.mk.inj heq
      exact ⟨x, hmem, rfl⟩

/-- A field for a single word character. -/
def wordField (name template : Text) : Field :=
  { name, template, samples := [],
    regex := { pattern := "\\w", node := .char (.ofCategory .word false false) } }

/-- A local field whose template ends with that of a global one, and a field without a template. -/
def nestedRules : Rules :=
  { fields := [("pair", wordField "pair" "ab"), ("none", wordField "none" "")],
    globals := [("last", wordField "last" "b")] }

theorem view_lossless_nested :
    renderTemplates (view nestedRules "abxb") = "abxb" ∧
      .text "x" ∈ view nestedRules "abxb" ∧
      (Text.ofString "last", wordField "last" "b") ∈ nestedRules.globals ∧
      (wordField "last" "b").template ≠ [] ∧
      ¬ (wordField "last" "b").template <:+: Text.ofString "x" ∧
      .field (wordField "pair" "ab") false ∈ view nestedRules "abxb" ∧
      (∃ x ∈ nestedRules.fields, x.2 = wordField "pair" "ab") := by
  have hview : view nestedRules "abxb" = [.field (wordField "pair" "ab") false, .text "x",
      .field (wordField "last" "b") true] := rfl
  have htext : .text "x" ∈ view nestedRules "abxb" := hview ▸ by simp
  have hfield : .field (wordField "pair" "ab") false ∈ view nestedRules "abxb" := hview ▸ by simp
  obtain ⟨hwhole, -, hsearched, hfound⟩ := view_lossless nestedRules "abxb"
  have hglobal : (Text.ofString "last", wordField "last" "b") ∈ nestedRules.globals :=
    List.mem_cons_self
  have hne : (wordField "last" "b").template ≠ [] := by decide
  exact ⟨hwhole, htext, hglobal, hne,
    hsearched _ htext _ (List.mem_append_right _ hglobal) hne, hfield, (hfound _ _ hfield).1⟩

end LineSift.RuleSet
