import LineSift.Proofs.Rules.Written
import LineSift.Proofs.Text.Space
import LineSift.Proofs.Traversal
import LineSift.Value.List

/-!
# Lists of values in brackets

A list whose elements stand between brackets and commas with nothing but white space around them is
read as these elements, provided each of them ends where it should (`Whole`).  This is so for a
string in quotes that is made of backslash pairs and of code points that are neither the quote nor a
backslash (`Delimited`).  So unquoting the list unquotes the elements, one after the other
(`unquoteList_bracketed`).
-/

namespace LineSift.Value

open Header (PairedBody Elements Bracketed)
open Text (White)

/-- A string whose end does not depend on what stands behind it. -/
inductive Delimited : Text → Prop
  | paired {q : CodePoint} {b : Text} : q = .char '"' ∨ q = .char '\'' → PairedBody q b →
      Delimited (q :: (b ++ [q]))
  | raw {b : Text} : .char '`' ∉ b → Delimited (.char '`' :: (b ++ [.char '`']))

/-- A text that is read as an element if a comma or the end of the list follows. -/
structure Whole (s : Text) : Prop where
  begins : ∃ q u, s = q :: u ∧ q.isSpace = false
  read : ∀ {t : Text} {after : AfterElement}, afterElement? t = some after →
    firstElement (s ++ t) = (s, after)

theorem cutAtQuote_quote (q : CodePoint) (t : Text) : cutAtQuote q (q :: t) = some ([q], t) := by
  cases t <;> simp [cutAtQuote]

/-- A string in quotes is cut where its body ends: within it each quote has a backslash. -/
theorem cutAtQuote_body {q : CodePoint} (hq : q ≠ .char '\\') {b : Text} (h : PairedBody q b)
    (t : Text) : cutAtQuote q (b ++ q :: t) = some (b ++ [q], t) := by
  induction h with
  | nil => exact cutAtQuote_quote q t
  | @plain c b hc hb _ ih =>
    rw [List.cons_append]
    cases hrest : b ++ q :: t with
    | nil => simp at hrest
    | cons d u =>
      rw [cutAtQuote, if_neg hc, if_neg hb, ← hrest, ih]
      rfl
  | @pair c b _ ih =>
    rw [List.cons_append, List.cons_append, cutAtQuote, if_neg (Ne.symm hq), if_pos rfl, ih]
    rfl

theorem cutAtBacktick_body {b : Text} (h : .char '`' ∉ b) (t : Text) :
    cutAtBacktick (b ++ .char '`' :: t) = some (b ++ [.char '`'], t) := by
  induction b with
  | nil => rfl
  | cons c b ih =>
    obtain ⟨hc, hb⟩ := List.ne_and_not_mem_of_not_mem_cons h
    rw [List.cons_append, cutAtBacktick, if_neg hc.symm, ih hb]
    rfl

namespace Delimited

variable {s : Text}

theorem exists_cons (h : Delimited s) : ∃ q u, s = q :: u ∧ q.isSpace = false := by
  cases h with
  | paired hq _ => exact ⟨_, _, rfl, by rcases hq with rfl | rfl <;> decide⟩
  | raw _ => exact ⟨_, _, rfl, by decide⟩

/-- A string that does not depend on what stands behind it is an element if a comma or the
end follows. -/
theorem quotedElement?_append (h : Delimited s) {t : Text} {after : AfterElement}
    (ha : afterElement? t = some after) : quotedElement? (s ++ t) = some (s, after) := by
  cases h with
  | @paired q b hq hb =>
    have hslash : q ≠ .char '\\' := by rcases hq with rfl | rfl <;> decide
    have hcut := cutAtQuote_body hslash hb t
    rw [List.cons_append, List.append_assoc, List.singleton_append]
    simp only [quotedElement?, if_pos hq, hcut, Option.bind_some, ha, Option.map_some]
  | @raw b hb =>
    have hcut := cutAtBacktick_body hb t
    rw [List.cons_append, List.append_assoc, List.singleton_append]
    have hother : ¬(CodePoint.char '`' = .char '"' ∨ CodePoint.char '`' = .char '\'') := by decide
    simp only [quotedElement?, if_neg hother, if_true, hcut, Option.bind_some, ha, Option.map_some]

/-- Such a string is read as a whole. -/
theorem whole (h : Delimited s) : Whole s where
  begins := h.exists_cons
  read ha := by
    obtain ⟨q, u, rfl, hq⟩ := h.exists_cons
    rw [firstElement, List.cons_append, Text.stripLeft_cons hq, ← List.cons_append,
      h.quotedElement?_append ha]
    rfl

end Delimited

/-! ## The elements of a list -/

theorem firstElement_white {g : Text} (h : White g) (t : Text) :
    firstElement (g ++ t) = firstElement t := by
  rw [firstElement, Text.stripLeft_white h]
  rfl

theorem afterElement?_white {g : Text} (h : White g) : afterElement? g = some .last := by
  rw [afterElement?, Text.stripLeft_eq_nil.mpr h]

/-- Behind white space a comma asks for a further element. -/
theorem afterElement?_comma {g : Text} (h : White g) (t : Text) :
    afterElement? (g ++ .char ',' :: t) = some (.more t) := by
  simp only [afterElement?, Text.stripLeft_white h,
    Text.stripLeft_cons (c := .char ',') (by decide), if_pos]

/-- The elements between the brackets are those of the list. -/
theorem elements_of_elements {ss : List Text} {e : Text} (h : Elements White ss e)
    (hs : ∀ s ∈ ss, Whole s) {g : Text} (hg : White g) : elements (g ++ e) = ss := by
  induction h generalizing g with
  | @last s g' hg' =>
    have hfirst := (hs s List.mem_cons_self).read (afterElement?_white hg')
    rw [← firstElement_white hg] at hfirst
    rw [elements]
    split
    · next e he => rw [hfirst] at he; cases he; rfl
    · next e rest he => rw [hfirst] at he; cases he
  | @more s g₁ g₂ e ss hg₁ hg₂ _ ih =>
    obtain ⟨hs, hss⟩ := List.forall_mem_cons.mp hs
    have hfirst := hs.read (afterElement?_comma hg₁ (g₂ ++ e))
    rw [← firstElement_white hg] at hfirst
    rw [elements]
    split
    · next e he => rw [hfirst] at he; cases he
    · next e rest he =>
      rw [hfirst] at he
      cases he
      rw [ih hss hg₂]

/-- A list in its brackets is read element by element, none of which is empty. -/
theorem unquoteList_enclosed (body : Text) :
    unquoteList (.char '[' :: (body ++ [CodePoint.char ']'])) =
      if Text.strip body = [] then .ok []
      else (elements body).mapM fun e =>
        if e = [] then .error (.emptyElement (.char '[' :: (body ++ [CodePoint.char ']']))) else
          unquote e := by
  have hstrip : Text.strip (.char '[' :: (body ++ [CodePoint.char ']'])) =
      .char '[' :: (body ++ [CodePoint.char ']']) :=
    Text.strip_enclosed (by decide) (by decide) body
  have hlength : ¬(.char '[' :: (body ++ [CodePoint.char ']']) : Text).length < 2 := by simp
  have hends : ¬((.char '[' :: (body ++ [CodePoint.char ']']) : Text).head? ≠ some (.char '[') ∨
      (.char '[' :: (body ++ [CodePoint.char ']']) : Text).getLast? ≠ some (.char ']')) := by
    simp [List.getLast?_cons, List.getLast?_append]
  have hbody : (.char '[' :: (body ++ [CodePoint.char ']']) : Text).tail.dropLast = body := by simp
  simp only [unquoteList, hstrip, if_neg hlength, if_neg hends, hbody]

theorem exists_first {gap : Text → Prop} {ss : List Text} {e : Text} (h : Elements gap ss e) :
    ∃ s ∈ ss, ∃ r, e = s ++ r := by
  cases h with
  | last _ => exact ⟨_, List.mem_cons_self, _, rfl⟩
  | more _ _ _ => exact ⟨_, List.mem_cons_self, _, rfl⟩

/-- Unquoting a list in brackets unquotes its elements, one after the other. -/
theorem unquoteList_bracketed {ss : List Text} {v : Text} (h : Bracketed White ss v)
    (hs : ∀ s ∈ ss, Whole s) : unquoteList v = ss.mapM unquote := by
  cases h with
  | @empty g hg =>
    rw [unquoteList_enclosed, Text.strip, Text.stripLeft_eq_nil.mpr hg]
    rfl
  | @elements g e ss hg he =>
    have hstrip : Text.strip (g ++ e) ≠ [] := by
      obtain ⟨s, hsmem, r, rfl⟩ := exists_first he
      obtain ⟨q, u, rfl, hq⟩ := (hs s hsmem).begins
      exact List.ne_nil_of_mem (Text.mem_strip (List.mem_append_right g List.mem_cons_self) hq)
    rw [← List.append_assoc, unquoteList_enclosed, if_neg hstrip, elements_of_elements he hs hg]
    refine mapM_congr fun s h => if_neg ?_
    obtain ⟨q, u, rfl, -⟩ := (hs s h).begins
    exact List.cons_ne_nil q u

end LineSift.Value
