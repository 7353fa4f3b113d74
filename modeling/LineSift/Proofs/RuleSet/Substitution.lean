import LineSift.Proofs.Regex.Quote
import LineSift.Proofs.Text.Replace
import LineSift.RuleSet.View

/-!
# Substitution of fields and the parts of a template

Putting fields into a pattern is plain replacement of text, and knows nothing of what has been put
in before.  Here a pattern is kept as a sequence of splices, which tell the code points of its own
from what has been put in.  As long as a field's template is found among code points of the
pattern's own only (`OwnOnly`), replacement of text and of splices come to the same
(`replaceAll_flat`).  And the splices of a quoted template are those of its parts (`splice_parts`),
so the pattern for the template is written part by part (`patternFor_eq_view`).
-/

namespace LineSift

/-- A code point that a pattern had from the beginning, or a pattern that has been put into it. -/
inductive Splice where
  | own (c : CodePoint)
  | put (pattern : Text)
  deriving DecidableEq

namespace Splice

/-- What a splice looks like in the pattern. -/
def text : Splice → Text
  | .own c => [c]
  | .put p => p

/-- The pattern that splices make up. -/
def flat (m : List Splice) : Text := m.flatMap text

/-- The splices of a pattern into which nothing has been put. -/
def ownText (t : Text) : List Splice := t.map .own

theorem flat_append (a b : List Splice) : flat (a ++ b) = flat a ++ flat b := List.flatMap_append

theorem flat_ownText (t : Text) : flat (ownText t) = t := by
  induction t with
  | nil => rfl
  | cons c t ih =>
    rw [ownText, List.map_cons, flat, List.flatMap_cons]
    exact congrArg (c :: ·) ih

/-- Wherever a text occurs in a pattern, it occurs among the code points of the pattern's own, with
nothing put in between. -/
def OwnOnly (q : Text) : List Splice → Prop
  | [] => True
  | .own c :: m => (q <+: c :: flat m → ownText q <+: .own c :: m) ∧ OwnOnly q m
  | .put p :: m => (∀ i < p.length, ¬ q <+: p.drop i ++ flat m) ∧ OwnOnly q m

instance decidableOwnOnly (q : Text) : (m : List Splice) → Decidable (OwnOnly q m)
  | [] => inferInstanceAs (Decidable True)
  | .own c :: m =>
    have := decidableOwnOnly q m
    inferInstanceAs (Decidable ((q <+: c :: flat m → ownText q <+: .own c :: m) ∧ OwnOnly q m))
  | .put p :: m =>
    have := decidableOwnOnly q m
    inferInstanceAs (Decidable ((∀ i < p.length, ¬ q <+: p.drop i ++ flat m) ∧ OwnOnly q m))

/-- Replaces a text by a pattern, after `skip` more splices of an occurrence. -/
def splice (q new : Text) : Nat → List Splice → List Splice
  | _, [] => []
  | skip + 1, _ :: m => splice q new skip m
  | 0, x :: m =>
    if ownText q <+: x :: m then .put new :: splice q new (q.length - 1) m
    else x :: splice q new 0 m

theorem splice_append (q new : Text) (a m : List Splice) (skip : Nat) :
    splice q new (a.length + skip) (a ++ m) = splice q new skip m := by
  induction a with
  | nil => rw [List.length_nil, Nat.zero_add, List.nil_append]
  | cons x a ih =>
    rw [List.length_cons, Nat.add_right_comm, List.cons_append, splice]
    exact ih

theorem ownText_prefix {q : Text} {m : List Splice} (h : ownText q <+: m) :
    ∀ x ∈ m.take q.length, ∃ c, x = .own c := by
  obtain ⟨rest, rfl⟩ := h
  intro x hx
  have hlen : q.length = (ownText q).length := (List.length_map _).symm
  rw [hlen, List.take_left] at hx
  obtain ⟨c, -, rfl⟩ := List.mem_map.mp hx
  exact ⟨c, rfl⟩

theorem flat_prefix {q : Text} {m : List Splice} (h : ownText q <+: m) : q <+: flat m := by
  obtain ⟨rest, rfl⟩ := h
  rw [flat_append, flat_ownText]
  exact List.prefix_append _ _

theorem replaceFrom_flat {q : Text} (hq : q ≠ []) (new : Text) {m : List Splice}
    (h : OwnOnly q m) (skip : Nat) (hskip : ∀ x ∈ m.take skip, ∃ c, x = .own c) :
    Text.replaceFrom q new skip (flat m) = flat (splice q new skip m) := by
  induction m generalizing skip with
  | nil =>
    cases skip <;> exact Text.replaceFrom_nil _ _ _
  | cons x m ih =>
    cases skip with
    | succ skip =>
      obtain ⟨c, rfl⟩ := hskip x (by simp)
      have htail : ∀ y ∈ m.take skip, ∃ c, y = .own c := fun y hy =>
        hskip y (by simpa using Or.inr hy)
      exact ih h.2 skip htail
    | zero =>
      cases x with
      | own c =>
        have hflat : flat (.own c :: m) = c :: flat m := rfl
        rw [splice, hflat]
        by_cases hm : ownText q <+: .own c :: m
        · rw [if_pos hm, Text.replaceFrom_match new (hflat ▸ flat_prefix hm)]
          have htail : ∀ y ∈ m.take (q.length - 1), ∃ c, y = .own c := by
            intro y hy
            refine ownText_prefix hm y ?_
            cases hlen : q.length with
            | zero => exact absurd (List.length_eq_zero_iff.mp hlen) hq
            | succ n =>
              rw [hlen, Nat.add_sub_cancel] at hy
              rw [List.take_succ_cons]
              exact List.mem_cons_of_mem _ hy
          rw [ih h.2 _ htail]
          rfl
        · rw [if_neg hm, Text.replaceFrom_step new (mt h.1 hm), ih h.2 0 (by simp)]
          rfl
      | put p =>
        have hno : ¬ ownText q <+: .put p :: m := by
          cases q with
          | nil => exact absurd rfl hq
          | cons c q => exact fun hm => by cases (List.cons_prefix_cons.mp hm).1
        have hflat : flat (.put p :: m) = p ++ flat m := rfl
        rw [splice, if_neg hno, hflat, Text.replaceFrom_copy new h.1, ih h.2 0 (by simp)]
        rfl

/-- Where a text occurs among the code points of a pattern's own only, replacing it in the pattern
is replacing it among the splices. -/
theorem replaceAll_flat {q : Text} (hq : q ≠ []) (new : Text) {m : List Splice}
    (h : OwnOnly q m) : (flat m).replaceAll q new = flat (splice q new 0 m) := by
  rw [Text.replaceAll_eq, replaceFrom_flat hq new h 0 (by simp)]

end Splice

namespace RuleSet

open Splice (flat ownText splice OwnOnly)
open Regex (quote escapeOne)

namespace Part

/-- A part as it stands in a pattern. -/
def splices : Part → List Splice
  | .text t => ownText (quote t)
  | .field f _ => [.put f.regex.pattern]

/-- The pattern for a part. -/
def pattern : Part → Text
  | .text t => quote t
  | .field f _ => f.regex.pattern

theorem flat_splices (p : Part) : flat p.splices = p.pattern := by
  cases p with
  | text t => exact Splice.flat_ownText _
  | field f isGlobal => exact List.append_nil _

/-- Parts with a field between any two texts. -/
inductive Spaced : List Part → Prop
  | nil : Spaced []
  | last (t : Text) : Spaced [.text t]
  | text (t : Text) {f : Field} {isGlobal : Bool} {ps : List Part} :
      Spaced (.field f isGlobal :: ps) → Spaced (.text t :: .field f isGlobal :: ps)
  | field (f : Field) (isGlobal : Bool) {ps : List Part} : Spaced ps →
      Spaced (.field f isGlobal :: ps)

end Part

variable {f : Field} (isGlobal : Bool)

theorem interleave_cons (p : Part) (t : Text) {ts : List Text} (h : ts ≠ []) :
    (Part.interleave p (t :: ts)).flatMap Part.splices =
      ownText (quote t) ++ p.splices ++ (Part.interleave p ts).flatMap Part.splices := by
  cases ts with
  | nil => exact absurd rfl h
  | cons u us =>
    rw [Part.interleave, List.flatMap_append, List.flatMap_cons, List.append_assoc]
    · by_cases ht : t = []
      · rw [if_pos ht, ht]
        rfl
      · rw [if_neg ht, List.flatMap_singleton]
        rfl
    · exact List.cons_ne_nil _ _

theorem ownText_quote_cons (c : CodePoint) (t : Text) :
    ownText (quote (c :: t)) = ownText (escapeOne c) ++ ownText (quote t) := by
  rw [Regex.quote_cons]
  exact List.map_append

theorem interleave_modifyHead (p : Part) (c : CodePoint) {ts : List Text} (h : ts ≠ []) :
    (Part.interleave p (ts.modifyHead (c :: ·))).flatMap Part.splices =
      ownText (escapeOne c) ++ (Part.interleave p ts).flatMap Part.splices := by
  cases ts with
  | nil => exact absurd rfl h
  | cons t ts =>
    cases ts with
    | nil =>
      by_cases ht : t = []
      · subst ht
        simp [Part.interleave, Part.splices, quote, ownText]
      · simp [Part.interleave, Part.splices, ownText_quote_cons, ht]
    | cons u us =>
      rw [List.modifyHead_cons, interleave_cons p _ (List.cons_ne_nil u us),
        interleave_cons p _ (List.cons_ne_nil u us), ownText_quote_cons]
      simp only [List.append_assoc]

/-- Splices that do not begin with a code point of the pattern's own. -/
def Foreign (m : List Splice) : Prop := ∀ c, m.head? ≠ some (.own c)

theorem prefix_of_foreign {q t : Text} {rest : List Splice} (hrest : Foreign rest)
    (h : ownText q <+: ownText t ++ rest) : q <+: t := by
  induction q generalizing t with
  | nil => exact List.nil_prefix
  | cons c q ih =>
    cases t with
    | nil =>
      cases rest with
      | nil => exact absurd (List.prefix_nil.mp h) (by simp [ownText])
      | cons x rest =>
        have hx : x = .own c := (List.cons_prefix_cons.mp h).1.symm
        exact absurd (congrArg some hx) (hrest c)
    | cons d t =>
      obtain ⟨hcd, h⟩ := List.cons_prefix_cons.mp h
      exact List.cons_prefix_cons.mpr ⟨Splice.own.inj hcd, ih h⟩

/-- Where a template stands in a quoted text, it is replaced, and the rest of it is passed over. -/
theorem splice_match {q : Text} (hq : q ≠ []) (new : Text) {c : CodePoint} {t : Text}
    (h : q <+: c :: t) (rest : List Splice) :
    splice (quote q) new 0 (ownText (quote (c :: t)) ++ rest) =
      .put new :: splice (quote q) new (quote (t.take (q.length - 1))).length
        (ownText (quote t) ++ rest) := by
  obtain ⟨u, rfl⟩ : ∃ u, q = c :: u := by
    cases q with
    | nil => exact absurd rfl hq
    | cons d u => exact ⟨u, by rw [(List.cons_prefix_cons.mp h).1]⟩
  have htake : t.take ((c :: u).length - 1) = u := by
    rw [List.length_cons, Nat.add_sub_cancel]
    exact (List.prefix_iff_eq_take.mp (List.cons_prefix_cons.mp h).2).symm
  obtain ⟨e, es, he⟩ := List.exists_cons_of_ne_nil (Regex.escapeOne_ne_nil c)
  have hmatch : ownText (quote (c :: u)) <+: ownText (quote (c :: t)) ++ rest := by
    obtain ⟨after, hafter⟩ := (Regex.quote_prefix_iff _ _).mpr h
    refine ⟨ownText after ++ rest, ?_⟩
    rw [← hafter, ownText, ownText, ownText, List.map_append, List.append_assoc]
  have hlen : (quote (c :: u)).length - 1 = (ownText es).length + (quote u).length := by
    rw [Regex.quote_cons, he, ownText, List.length_map, List.cons_append, List.length_cons,
      List.length_append, Nat.add_sub_cancel]
  have hown : ownText (quote (c :: t)) ++ rest =
      .own e :: (ownText es ++ (ownText (quote t) ++ rest)) := by
    rw [ownText_quote_cons, he, List.append_assoc]
    rfl
  rw [hown] at hmatch ⊢
  rw [splice, if_pos hmatch, hlen, Splice.splice_append, htake]

/-- Where no template stands in a quoted text, the next code point is left as it is.  If a backslash
is put before it, no template stands behind that either. -/
theorem splice_step {q : Text} (new : Text) {c : CodePoint} {t : Text} (h : ¬ q <+: c :: t)
    {rest : List Splice} (hrest : Foreign rest) :
    splice (quote q) new 0 (ownText (quote (c :: t)) ++ rest) =
      ownText (escapeOne c) ++ splice (quote q) new 0 (ownText (quote t) ++ rest) := by
  have hno : ¬ ownText (quote q) <+: ownText (quote (c :: t)) ++ rest :=
    fun hm => h ((Regex.quote_prefix_iff _ _).mp (prefix_of_foreign hrest hm))
  rw [ownText_quote_cons] at hno ⊢
  by_cases hc : Regex.isSpecial c = true
  · have hno' : ¬ ownText (quote q) <+: .own c :: (ownText (quote t) ++ rest) :=
      fun hm => h (Regex.prefix_of_misaligned hc (prefix_of_foreign (t := c :: quote t) hrest hm))
    have hown : ownText (escapeOne c) ++ ownText (quote t) ++ rest =
        .own Regex.backslash :: .own c :: (ownText (quote t) ++ rest) := by
      rw [Regex.escapeOne_special hc]
      rfl
    rw [hown] at hno ⊢
    rw [splice, if_neg hno, splice, if_neg hno', Regex.escapeOne_special hc]
    rfl
  · have hown : ownText (escapeOne c) ++ ownText (quote t) ++ rest =
        .own c :: (ownText (quote t) ++ rest) := by
      rw [Regex.escapeOne_plain hc]
      rfl
    rw [hown] at hno ⊢
    rw [splice, if_neg hno, Regex.escapeOne_plain hc]
    rfl

/-- A quoted text in which a quoted template is replaced is written part by part. -/
theorem splice_quoted (hf : f.template ≠ []) (t : Text) {rest : List Splice}
    (hrest : Foreign rest) (skip : Nat) :
    splice (quote f.template) f.regex.pattern (quote (t.take skip)).length
        (ownText (quote t) ++ rest) =
      (Part.interleave (.field f isGlobal) (Text.splitFrom f.template skip t)).flatMap
          Part.splices ++
        splice (quote f.template) f.regex.pattern 0 rest := by
  induction t generalizing skip with
  | nil => cases skip <;> rfl
  | cons c t ih =>
    cases skip with
    | succ skip =>
      have hlen : (quote ((c :: t).take (skip + 1))).length =
          (ownText (escapeOne c)).length + (quote (t.take skip)).length := by
        rw [List.take_succ_cons, Regex.quote_cons, List.length_append, ownText, List.length_map]
      rw [hlen, ownText_quote_cons, List.append_assoc, Splice.splice_append]
      exact ih skip
    | zero =>
      have hzero (t : Text) : (quote (t.take 0)).length = 0 := rfl
      rw [hzero, Text.splitFrom]
      by_cases hm : f.template <+: c :: t
      · rw [if_pos (List.isPrefixOf_iff_prefix.mpr hm), splice_match hf _ hm, ih,
          interleave_cons _ _ (Text.splitFrom_ne_nil _ _ _)]
        rfl
      · have hrec := ih 0
        rw [hzero] at hrec
        rw [if_neg (mt List.isPrefixOf_iff_prefix.mp hm), splice_step _ hm hrest, hrec,
          interleave_modifyHead _ _ (Text.splitFrom_ne_nil _ _ _), List.append_assoc]

theorem foreign_of_spaced {t : Text} {ps : List Part} (h : Part.Spaced (.text t :: ps)) :
    Foreign (ps.flatMap Part.splices) ∧ Part.Spaced ps := by
  cases h with
  | last => exact ⟨fun c => by simp, .nil⟩
  | text _ h => exact ⟨fun c => by simp [Part.splices], h⟩

/-- Replacing a field's template among the splices of parts is looking for the field in
the parts. -/
theorem splice_parts (hf : f.template ≠ []) {ps : List Part} (h : Part.Spaced ps) :
    splice (quote f.template) f.regex.pattern 0 (ps.flatMap Part.splices) =
      (ps.flatMap (Part.cut f isGlobal)).flatMap Part.splices := by
  induction ps with
  | nil => rfl
  | cons p ps ih =>
    rw [List.flatMap_cons, List.flatMap_cons, List.flatMap_append]
    cases p with
    | text t =>
      obtain ⟨hforeign, hspaced⟩ := foreign_of_spaced h
      have hquoted := splice_quoted isGlobal hf t hforeign 0
      rw [Part.cut, if_neg hf, Text.splitOn, ← ih hspaced]
      exact hquoted
    | field g isGlobal' =>
      have hspaced : Part.Spaced ps := by
        cases h with
        | field _ _ h => exact h
      have hno : ¬ ownText (quote f.template) <+:
          .put g.regex.pattern :: ps.flatMap Part.splices := by
        cases hq : quote f.template with
        | nil => exact absurd hq (Regex.quote_ne_nil hf)
        | cons c q => exact fun hm => by cases (List.cons_prefix_cons.mp hm).1
      rw [Part.splices, List.singleton_append, splice, if_neg hno, ih hspaced]
      rfl

/-- Looking for a field without a template changes nothing. -/
theorem flatMap_cut_of_nil (hf : f.template = []) (ps : List Part) :
    ps.flatMap (Part.cut f isGlobal) = ps := by
  have hone : Part.cut f isGlobal = fun p => [p] := by
    funext p
    cases p with
    | text t => rw [Part.cut, if_pos hf]
    | field g isGlobal' => rfl
  rw [hone, List.flatMap_singleton']

/-- Looking for a field leaves a field between any two texts. -/
theorem spaced_cut {ps : List Part} (h : Part.Spaced ps) :
    Part.Spaced (ps.flatMap (Part.cut f isGlobal)) := by
  have hinter (ts : List Text) {ps : List Part} (hps : Part.Spaced ps)
      (hhead : ∀ t, ps.head? ≠ some (.text t)) :
      Part.Spaced (Part.interleave (.field f isGlobal) ts ++ ps) := by
    have hput (t : Text) {ps : List Part} (hps : Part.Spaced ps)
        (hhead : ∀ t, ps.head? ≠ some (.text t)) :
        Part.Spaced ((if t = [] then [] else [.text t]) ++ ps) := by
      split
      · exact hps
      · cases ps with
        | nil => exact .last t
        | cons p ps =>
          cases p with
          | text u => exact absurd rfl (hhead u)
          | field g isGlobal' => exact .text t hps
    induction ts with
    | nil => exact hps
    | cons t ts ih =>
      cases ts with
      | nil => exact hput t hps hhead
      | cons u us =>
        rw [Part.interleave, List.append_assoc]
        · exact hput t (.field f isGlobal ih) (by simp)
        · exact List.cons_ne_nil _ _
  induction h with
  | nil => exact .nil
  | last t =>
    rw [List.flatMap_singleton, Part.cut]
    split
    · exact .last t
    · have := hinter (t.splitOn f.template) .nil (by simp)
      rwa [List.append_nil] at this
  | @text t g isGlobal' ps h ih =>
    rw [List.flatMap_cons] at ih ⊢
    rw [Part.cut]
    split
    · exact .text t ih
    · exact hinter (t.splitOn f.template) ih (by simp [Part.cut])
  | field g isGlobal' h ih => exact .field g isGlobal' ih

/-! ## All fields of a rule set -/

/-- Each field is found, when its turn comes, among code points of the pattern's own only. -/
def OwnOnlyAll : Assoc Field → List Splice → Prop
  | [], _ => True
  | (_, f) :: fs, m =>
    if f.template = [] then OwnOnlyAll fs m
    else OwnOnly (quote f.template) m ∧
      OwnOnlyAll fs (splice (quote f.template) f.regex.pattern 0 m)

instance decidableOwnOnlyAll : (fs : Assoc Field) → (m : List Splice) → Decidable (OwnOnlyAll fs m)
  | [], _ => inferInstanceAs (Decidable True)
  | (_, f) :: fs, m =>
    have := decidableOwnOnlyAll fs m
    have := decidableOwnOnlyAll fs (splice (quote f.template) f.regex.pattern 0 m)
    inferInstanceAs (Decidable (if f.template = [] then OwnOnlyAll fs m
      else OwnOnly (quote f.template) m ∧
        OwnOnlyAll fs (splice (quote f.template) f.regex.pattern 0 m)))

/-- The fields of a rule set are found among the own code points of the pattern for a text only. -/
def Untouched (r : Rules) (t : Text) : Prop :=
  OwnOnlyAll (r.fields ++ r.globals) (ownText (quote t))

instance (r : Rules) (t : Text) : Decidable (Untouched r t) :=
  inferInstanceAs (Decidable (OwnOnlyAll _ _))

/-- The pattern for parts. -/
def patternOf (ps : List Part) : Text := ps.flatMap Part.pattern

theorem flat_splices (ps : List Part) : flat (ps.flatMap Part.splices) = patternOf ps := by
  induction ps with
  | nil => rfl
  | cons p ps ih =>
    rw [List.flatMap_cons, Splice.flat_append, Part.flat_splices, ih]
    rfl

/-- Putting fields into the pattern for parts is looking for them in the parts; what holds of the
fields that come later is left. -/
theorem substitute_parts (fs later : Assoc Field) {ps : List Part} (h : Part.Spaced ps)
    (hown : OwnOnlyAll (fs ++ later) (ps.flatMap Part.splices)) :
    Rules.substitute fs (patternOf ps) = patternOf (Part.cutAll isGlobal fs ps) ∧
      Part.Spaced (Part.cutAll isGlobal fs ps) ∧
      OwnOnlyAll later ((Part.cutAll isGlobal fs ps).flatMap Part.splices) := by
  induction fs generalizing ps with
  | nil => exact ⟨rfl, h, hown⟩
  | cons x fs ih =>
    obtain ⟨name, f⟩ := x
    rw [List.cons_append, OwnOnlyAll] at hown
    simp only [Rules.substitute, Part.cutAll, List.foldl_cons] at ih ⊢
    split at hown
    · next ht =>
      rw [if_pos ht, flatMap_cut_of_nil isGlobal ht]
      exact ih h hown
    · next ht =>
      obtain ⟨hfirst, hrest⟩ := hown
      rw [splice_parts isGlobal ht h] at hrest
      rw [if_neg ht, ← flat_splices ps,
        Splice.replaceAll_flat (Regex.quote_ne_nil ht) f.regex.pattern hfirst,
        splice_parts isGlobal ht h, flat_splices]
      exact ih (spaced_cut isGlobal h) hrest

/-- **The pattern for a text is written part by part**, if each field is found in the text alone. -/
theorem patternFor_eq_view {r : Rules} {t : Text} (h : Untouched r t) :
    r.patternFor t = patternOf (view r t) := by
  have hstart : patternOf [.text t] = quote t := List.append_nil _
  have hown : OwnOnlyAll (r.fields ++ r.globals) ([Part.text t].flatMap Part.splices) := by
    rw [List.flatMap_singleton]
    exact h
  obtain ⟨hlocal, hspaced, hown⟩ :=
    substitute_parts false r.fields r.globals (.last t) hown
  rw [← List.append_nil r.globals] at hown
  obtain ⟨hglobal, -, -⟩ := substitute_parts true r.globals [] hspaced hown
  rw [Rules.patternFor, ← hstart, hlocal, hglobal]
  rfl

end RuleSet

end LineSift
