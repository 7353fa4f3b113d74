import Mathlib.Data.List.Infix
import Mathlib.Data.List.Perm.Basic
import LineSift.Proofs.RuleSet.Patterns
import LineSift.Proofs.RuleSet.View

/-!
# Templates that do not interfere

Where no template of a field stands in another one, and none ends as another one begins, their
occurrences in a text never overlap.  Then it makes no difference which of two fields is looked for
first (`cut_comm`), so fields can be declared in any order: the view of every template stays the
same, and so does each pattern in which the fields are found in the text alone
(`view_and_patterns_of_perm`).
-/

namespace LineSift

theorem forall₂_zip {α β γ : Type} {p : α → β → Prop} {q : α → γ → Prop} {as : List α} {bs : List β}
    {cs : List γ} (h : List.Forall₂ p as bs) (h' : List.Forall₂ q as cs) :
    List.Forall₂ (fun a x => p a x.1 ∧ q a x.2) as (bs.zip cs) := by
  induction h generalizing cs with
  | nil =>
    cases h'
    exact .nil
  | cons hp _ ih =>
    cases h' with
    | cons hq h' => exact .cons ⟨hp, hq⟩ (ih h')

namespace Text

/-- Texts whose occurrences never overlap: neither stands in the other, and no end of one of them is
a beginning of the other. -/
structure Apart (a b : Text) : Prop where
  not_infix : ¬ a <:+: b
  not_infix' : ¬ b <:+: a
  not_prefix : ∀ s, s ≠ [] → s ≠ a → s <:+ a → ¬ s <+: b
  not_prefix' : ∀ s, s ≠ [] → s ≠ b → s <:+ b → ¬ s <+: a

variable {a b : Text}

theorem apart_iff_drop : Apart a b ↔ ¬ a <:+: b ∧ ¬ b <:+: a ∧
    (∀ i < a.length, 0 < i → ¬ a.drop i <+: b) ∧ ∀ i < b.length, 0 < i → ¬ b.drop i <+: a := by
  have hends (a b : Text) : (∀ s, s ≠ [] → s ≠ a → s <:+ a → ¬ s <+: b) ↔
      ∀ i < a.length, 0 < i → ¬ a.drop i <+: b := by
    constructor
    · intro h i hi hpos
      refine h _ ?_ (fun heq => ?_) (List.drop_suffix i a)
      · exact fun hnil => absurd (List.drop_eq_nil_iff.mp hnil) (by omega)
      · have hlength := congrArg List.length heq
        rw [List.length_drop] at hlength
        omega
    · rintro h s hne hproper ⟨before, rfl⟩
      have hbefore : before ≠ [] := fun hnil => hproper (by rw [hnil, List.nil_append])
      have hlast := List.length_pos_iff.mpr hne
      have hdrop := h before.length (by rw [List.length_append]; omega)
        (List.length_pos_iff.mpr hbefore)
      rwa [List.drop_left] at hdrop
  rw [← hends a b, ← hends b a]
  exact ⟨fun h => ⟨h.1, h.2, h.3, h.4⟩, fun h => ⟨h.1, h.2.1, h.2.2.1, h.2.2.2⟩⟩

instance (a b : Text) : Decidable (Apart a b) := decidable_of_iff _ apart_iff_drop.symm

theorem Apart.symm (h : Apart a b) : Apart b a :=
  ⟨h.not_infix', h.not_infix, h.not_prefix', h.not_prefix⟩

/-- Where one of the texts stands the other one does not begin. -/
theorem Apart.not_begins (h : Apart a b) (t : Text) : ∀ i < a.length, ¬ b <+: a.drop i ++ t := by
  intro i hi hb
  rcases List.prefix_or_prefix_of_prefix hb (List.prefix_append (a.drop i) t) with hb | hs
  · exact h.not_infix' (hb.isInfix.trans (List.drop_suffix i a).isInfix)
  · by_cases ha : a.drop i = a
    · exact h.not_infix (ha ▸ hs.isInfix)
    · have hne : a.drop i ≠ [] := fun hnil => absurd (List.drop_eq_nil_iff.mp hnil) (by omega)
      exact h.not_prefix _ hne ha (List.drop_suffix i a) hs

end Text

namespace RuleSet

namespace Part

variable {f g : Field} {isGlobal isGlobal' : Bool}

/-! ## Looking for a field as a walk over a text -/

/-- Puts a text in front of parts.  If they begin with a text, the two are one text. -/
def onto (a : Text) : List Part → List Part
  | .text u :: ps => .text (a ++ u) :: ps
  | ps => .text a :: ps

theorem cut_nil (hf : f.template ≠ []) : cut f isGlobal (.text []) = [] := by
  rw [cut, if_neg hf]
  rfl

theorem cut_found (hf : f.template ≠ []) (t : Text) :
    cut f isGlobal (.text (f.template ++ t)) = .field f isGlobal :: cut f isGlobal (.text t) := by
  rw [cut, if_neg hf, cut, if_neg hf, Text.splitOn_found hf,
    interleave_of_ne_nil _ _ (Text.splitOn_ne_nil t f.template)]
  rfl

/-- A text in which the template does not begin goes to the part behind it. -/
theorem cut_append (hf : f.template ≠ []) {a t : Text} (ha : a ≠ [])
    (h : ∀ i < a.length, ¬ f.template <+: a.drop i ++ t) :
    cut f isGlobal (.text (a ++ t)) = onto a (cut f isGlobal (.text t)) := by
  rw [cut, if_neg hf, cut, if_neg hf, Text.splitOn_append h]
  obtain ⟨u, us, hsplit⟩ := List.exists_cons_of_ne_nil (Text.splitOn_ne_nil t f.template)
  rw [hsplit, List.modifyHead_cons]
  have hau : a ++ u ≠ [] := List.append_ne_nil_of_left_ne_nil ha u
  cases us with
  | nil =>
    by_cases hu : u = []
    · simp [interleave, hu, ha, onto]
    · simp [interleave, hu, ha, onto]
  | cons v vs =>
    rw [interleave_of_ne_nil _ _ (List.cons_ne_nil v vs), interleave_of_ne_nil _ _
      (List.cons_ne_nil v vs), if_neg hau]
    by_cases hu : u = []
    · simp [hu, onto]
    · simp [hu, onto]

theorem cut_ne_nil {t : Text} (ht : t ≠ []) : cut f isGlobal (.text t) ≠ [] := by
  intro hnil
  have hwhole : renderTemplates (cut f isGlobal (.text t)) = t := renderTemplates_cut (.text t)
  rw [hnil] at hwhole
  exact ht hwhole.symm

theorem text_nil_not_mem_cut (hf : f.template ≠ []) (t : Text) :
    .text [] ∉ cut f isGlobal (.text t) := by
  intro h
  obtain ⟨t', ht, -, hnil, -⟩ := mem_cut_text h
  obtain rfl : t = t' := Part.text.inj ht
  rw [hnil rfl, cut_nil hf] at h
  exact absurd h List.not_mem_nil

/-! ## Looking for a second field -/

theorem onto_append {ps : List Part} (h : ps ≠ []) (a : Text) (qs : List Part) :
    onto a ps ++ qs = onto a (ps ++ qs) := by
  cases ps with
  | nil => exact absurd rfl h
  | cons p ps => cases p <;> rfl

/-- Where no template begins in the text in front, it stays in front. -/
theorem flatMap_onto (hf : f.template ≠ []) {a : Text} (ha : a ≠ []) {ps : List Part}
    (hps : .text [] ∉ ps) (h : ∀ i < a.length, ¬ f.template <+: a.drop i ++ renderTemplates ps) :
    (onto a ps).flatMap (cut f isGlobal) = onto a (ps.flatMap (cut f isGlobal)) := by
  have halone : cut f isGlobal (.text a) = [.text a] := by
    have hnone : ∀ i < a.length, ¬ f.template <+: a.drop i ++ [] := fun i hi hbegins =>
      h i hi ((List.append_nil (a.drop i) ▸ hbegins).trans (List.prefix_append _ _))
    have hcut : cut f isGlobal (.text (a ++ [])) = onto a (cut f isGlobal (.text [])) :=
      cut_append hf ha hnone
    rwa [List.append_nil, cut_nil hf] at hcut
  cases ps with
  | nil => exact (List.append_nil _).trans halone
  | cons p ps =>
    cases p with
    | field g isGlobal' => exact congrArg (· ++ _) halone
    | text u =>
      have hu : u ≠ [] := fun hnil => hps (hnil ▸ List.mem_cons_self)
      have hnone : ∀ i < a.length, ¬ f.template <+: a.drop i ++ u := fun i hi hbegins => by
        refine h i hi (hbegins.trans ?_)
        rw [renderTemplates, List.flatMap_cons]
        exact (List.prefix_append_right_inj _).mpr (List.prefix_append u _)
      rw [onto, List.flatMap_cons, List.flatMap_cons, cut_append hf ha hnone,
        onto_append (cut_ne_nil hu)]

/-- The template of a field in front is found. -/
theorem flatMap_onto_template (hf : f.template ≠ []) (ps : List Part) :
    (onto f.template ps).flatMap (cut f isGlobal) =
      .field f isGlobal :: ps.flatMap (cut f isGlobal) := by
  have halone : cut f isGlobal (.text f.template) = [.field f isGlobal] := by
    have hcut : cut f isGlobal (.text (f.template ++ [])) = _ := cut_found hf []
    rwa [List.append_nil, cut_nil hf] at hcut
  cases ps with
  | nil => exact (List.append_nil _).trans halone
  | cons p ps =>
    cases p with
    | field g isGlobal' => exact congrArg (· ++ _) halone
    | text u =>
      rw [onto, List.flatMap_cons, List.flatMap_cons, cut_found hf, List.cons_append]

section TwoFields

variable (hf : f.template ≠ []) (hg : g.template ≠ []) (h : Text.Apart f.template g.template)

include hf hg h in
/-- Where the template of one of two fields begins, this field is found, whichever of them is looked
for first. -/
theorem cut_both_found (isGlobal isGlobal' : Bool) (t : Text) :
    (cut f isGlobal (.text (f.template ++ t))).flatMap (cut g isGlobal') =
        .field f isGlobal :: (cut f isGlobal (.text t)).flatMap (cut g isGlobal') ∧
      (cut g isGlobal' (.text (f.template ++ t))).flatMap (cut f isGlobal) =
        .field f isGlobal :: (cut g isGlobal' (.text t)).flatMap (cut f isGlobal) := by
  constructor
  · rw [cut_found hf, List.flatMap_cons]
    rfl
  · rw [cut_append hg hf (h.not_begins t), flatMap_onto_template hf]

include hf hg in
/-- Where no template begins, the next code point is left as it is. -/
theorem cut_both_other {c : CodePoint} {t : Text} (hfc : ¬ f.template <+: c :: t)
    (hgc : ¬ g.template <+: c :: t) :
    (cut f isGlobal (.text (c :: t))).flatMap (cut g isGlobal') =
      onto [c] ((cut f isGlobal (.text t)).flatMap (cut g isGlobal')) := by
  have hfirst {q : Text} (hq : ¬ q <+: c :: t) :
      ∀ i < [c].length, ¬ q <+: [c].drop i ++ t := fun i hi => by
    obtain rfl : i = 0 := Nat.lt_one_iff.mp hi
    exact hq
  have hone : [c] ≠ [] := List.cons_ne_nil c []
  have hcut : cut f isGlobal (.text (c :: t)) = onto [c] (cut f isGlobal (.text t)) :=
    cut_append hf hone (hfirst hfc)
  rw [hcut, flatMap_onto hg hone (text_nil_not_mem_cut hf t)]
  rw [renderTemplates_cut]
  exact hfirst hgc

include hf hg h in
/-- It makes no difference which of two fields is looked for first in a text. -/
theorem cut_text_comm : ∀ t : Text,
    (cut f isGlobal (.text t)).flatMap (cut g isGlobal') =
      (cut g isGlobal' (.text t)).flatMap (cut f isGlobal)
  | [] => by rw [cut_nil hf, cut_nil hg]; rfl
  | c :: t => by
    have hshorter {q rest : Text} (hq : q ≠ []) (hrest : q ++ rest = c :: t) :
        rest.length < (c :: t).length := by
      have hpos := List.length_pos_iff.mpr hq
      rw [← hrest, List.length_append]
      omega
    by_cases hfc : f.template <+: c :: t
    · obtain ⟨rest, hrest⟩ := hfc
      have hlength := hshorter hf hrest
      obtain ⟨hfirst, hsecond⟩ := cut_both_found hf hg h isGlobal isGlobal' rest
      rw [← hrest, hfirst, hsecond, cut_text_comm rest]
    · by_cases hgc : g.template <+: c :: t
      · obtain ⟨rest, hrest⟩ := hgc
        have hlength := hshorter hg hrest
        obtain ⟨hfirst, hsecond⟩ := cut_both_found hg hf h.symm isGlobal' isGlobal rest
        rw [← hrest, hfirst, hsecond, cut_text_comm rest]
      · rw [cut_both_other hf hg hfc hgc, cut_both_other hg hf hgc hfc, cut_text_comm t]
termination_by t => t.length
decreasing_by
  · exact hlength
  · exact hlength
  · exact Nat.lt_succ_self _

end TwoFields

/-- It makes no difference which of two fields is looked for first, if they are the same or their
templates do not interfere. -/
theorem cut_comm (h : f ≠ g → f.template ≠ [] → g.template ≠ [] →
    Text.Apart f.template g.template) (ps : List Part) :
    (ps.flatMap (cut f isGlobal)).flatMap (cut g isGlobal) =
      (ps.flatMap (cut g isGlobal)).flatMap (cut f isGlobal) := by
  by_cases hfg : f = g
  · rw [hfg]
  by_cases hf : f.template = []
  · rw [flatMap_cut_of_nil _ hf, flatMap_cut_of_nil _ hf]
  by_cases hg : g.template = []
  · rw [flatMap_cut_of_nil _ hg, flatMap_cut_of_nil _ hg]
  rw [List.flatMap_assoc, List.flatMap_assoc]
  have hpart : (fun p => (cut f isGlobal p).flatMap (cut g isGlobal)) =
      fun p => (cut g isGlobal p).flatMap (cut f isGlobal) := by
    funext p
    cases p with
    | text t => exact cut_text_comm hf hg (h hfg hf hg) t
    | field f' isGlobal' => rfl
  rw [hpart]

end Part

/-! ## All fields of a rule set -/

/-- Whether different fields of some rules have templates that do not interfere; fields without a
template do not count. -/
def Separate (r : Rules) : Prop :=
  ∀ x ∈ r.fields ++ r.globals, ∀ y ∈ r.fields ++ r.globals, x.2 ≠ y.2 →
    x.2.template ≠ [] → y.2.template ≠ [] → Text.Apart x.2.template y.2.template

instance (r : Rules) : Decidable (Separate r) :=
  inferInstanceAs (Decidable (∀ x ∈ _, ∀ y ∈ _, _))

theorem cutAll_of_perm {fs fs' : Assoc Field} (hperm : fs'.Perm fs)
    (h : ∀ x ∈ fs, ∀ y ∈ fs, x.2 ≠ y.2 → x.2.template ≠ [] → y.2.template ≠ [] →
      Text.Apart x.2.template y.2.template) (isGlobal : Bool) (ps : List Part) :
    Part.cutAll isGlobal fs' ps = Part.cutAll isGlobal fs ps := by
  refine hperm.foldl_eq' (fun x hx y hy ps => ?_) ps
  exact Part.cut_comm (h y (hperm.subset hy) x (hperm.subset hx)) ps |>.symm

section

variable {r : Rules} {fields globals : Assoc Field}

theorem view_eq_of_perm (hfields : fields.Perm r.fields) (hglobals : globals.Perm r.globals)
    (h : Separate r) (t : Text) : view { r with fields, globals } t = view r t := by
  rw [view, view, cutAll_of_perm hfields, cutAll_of_perm hglobals]
  · exact fun x hx y hy => h x (List.mem_append_right _ hx) y (List.mem_append_right _ hy)
  · exact fun x hx y hy => h x (List.mem_append_left _ hx) y (List.mem_append_left _ hy)

theorem patternFor_eq_of_view {r' : Rules} {t : Text} (hview : view r' t = view r t)
    (h : Untouched r t) (h' : Untouched r' t) : r'.patternFor t = r.patternFor t := by
  rw [patternFor_eq_view h', patternFor_eq_view h, hview]

/-- Rules that have the same patterns are compiled alike. -/
theorem ofRules_congr (hopening : r.opening ≠ [] →
      Rules.openingPattern { r with fields, globals } = r.openingPattern)
    (htemplates : ∀ t ∈ r.templates,
      Rules.linePattern { r with fields, globals } t = r.linePattern t) :
    ofRules { r with fields, globals } = (ofRules r).map fun rs => { rs with fields, globals } := by
  have hregexes : (r.templates.mapM fun t =>
        compilePattern r.source (Rules.linePattern { r with fields, globals } t)) =
      r.templates.mapM fun t => compilePattern r.source (r.linePattern t) :=
    mapM_congr fun t ht => by rw [htemplates t ht]
  unfold ofRules
  dsimp only
  rw [hregexes]
  by_cases hnil : r.opening = []
  · rw [if_pos hnil, if_pos hnil]
    cases r.templates.mapM fun t => compilePattern r.source (r.linePattern t) <;> rfl
  · rw [if_neg hnil, if_neg hnil, hopening hnil]
    cases compilePattern r.source r.openingPattern with
    | error e => rfl
    | ok gate => cases r.templates.mapM fun t => compilePattern r.source (r.linePattern t) <;> rfl

/-- **The order in which fields are declared makes no difference** if their templates do not
interfere.  Every template has the same view when the local fields and the global fields have been
put into another order.  Where, in both orders, each field is found in the opening text and a
template alone, the patterns for the two are the same; and if this holds of the opening text and of
all templates, the rules compile to the same patterns, or both fail. -/
theorem view_and_patterns_of_perm (hfields : fields.Perm r.fields)
    (hglobals : globals.Perm r.globals) (h : Separate r) :
    (∀ t, view { r with fields, globals } t = view r t) ∧
      (∀ rs rs', ofRules r = .ok rs → ofRules { r with fields, globals } = .ok rs' →
        List.Forall₂ (fun t regexes => Untouched r (r.opening ++ t) →
            Untouched { r with fields, globals } (r.opening ++ t) →
            regexes.2.pattern = regexes.1.pattern)
          r.templates (rs.regexes.zip rs'.regexes)) ∧
      ((r.opening ≠ [] → Untouched r r.opening ∧ Untouched { r with fields, globals } r.opening) →
        (∀ t ∈ r.templates, Untouched r (r.opening ++ t) ∧
          Untouched { r with fields, globals } (r.opening ++ t)) →
        ofRules { r with fields, globals } =
          (ofRules r).map fun rs => { rs with fields, globals }) := by
  have hview := view_eq_of_perm hfields hglobals h
  have hline (t : Text) (hold : Untouched r (r.opening ++ t))
      (hnew : Untouched { r with fields, globals } (r.opening ++ t)) :
      Rules.linePattern { r with fields, globals } t = r.linePattern t := by
    rw [Rules.linePattern, Rules.linePattern, patternFor_eq_of_view (hview _) hold hnew]
  refine ⟨hview, fun rs rs' hrs hrs' => ?_, fun hopening htemplates => ?_⟩
  · have hboth := forall₂_zip (regexes_of_ofRules hrs).2 (regexes_of_ofRules hrs').2
    refine hboth.imp fun t regexes hregexes hold hnew => ?_
    rw [(Regex.of_compile_ok hregexes.1).1, (Regex.of_compile_ok hregexes.2).1, hline t hold hnew]
  · refine ofRules_congr (fun hne => ?_) fun t ht => hline t (htemplates t ht).1 (htemplates t ht).2
    obtain ⟨hold, hnew⟩ := hopening hne
    rw [Rules.openingPattern, Rules.openingPattern, patternFor_eq_of_view (hview _) hold hnew]

end

/-- Rules with two local fields and a global one; the template of the first occurs in overlapping
places. -/
def separateRules : Rules :=
  { opening := "9 ", fields := [("run", wordField "run" "xx"), ("pair", wordField "pair" "ab")],
    globals := [("nine", wordField "nine" "9")], templates := ["xxxab9"] }

theorem view_and_patterns_of_perm_swapped :
    let fields : Assoc Field := separateRules.fields.reverse
    let globals : Assoc Field := separateRules.globals
    fields.Perm separateRules.fields ∧ Separate separateRules ∧
      (∀ t ∈ separateRules.opening :: separateRules.templates.map (separateRules.opening ++ ·),
        Untouched separateRules t ∧ Untouched { separateRules with fields, globals } t) ∧
      (∀ t, view { separateRules with fields, globals } t = view separateRules t) ∧
      ∃ rs, ofRules separateRules = .ok rs ∧
        ofRules { separateRules with fields, globals } = .ok { rs with fields, globals } := by
  intro fields globals
  have hperm : fields.Perm separateRules.fields := separateRules.fields.reverse_perm
  have hseparate : Separate separateRules := by decide +kernel
  have huntouched : ∀ t ∈ separateRules.opening :: separateRules.templates.map
      (separateRules.opening ++ ·), Untouched separateRules t ∧
        Untouched { separateRules with fields, globals } t := by decide +kernel
  obtain ⟨hview, -, hcompiled⟩ :=
    view_and_patterns_of_perm hperm (List.Perm.refl separateRules.globals) hseparate
  refine ⟨hperm, hseparate, huntouched, hview, ?_⟩
  have hok : (ofRules separateRules).isOk = true := by decide +kernel
  cases hrs : ofRules separateRules with
  | error e =>
    rw [hrs] at hok
    cases hok
  | ok rs =>
    refine ⟨rs, rfl, ?_⟩
    obtain ⟨hopening, htemplates⟩ := List.forall_mem_cons.mp huntouched
    have hsame := hcompiled (fun _ => hopening) (List.forall_mem_map.mp htemplates)
    rw [hrs] at hsame
    exact hsame

end RuleSet

end LineSift
