import LineSift.Proofs.Regex.Quote
import LineSift.Regex.Token

/-!
# Tokens of patterns that are put together

A pattern is cut into tokens apart from what follows it, unless it ends with a backslash that waits
for a code point (`tokens_append`).  A quoted text has one token for each of its code points
(`tokens_quote`).
-/

namespace LineSift.Regex

theorem tokens_plain {c : CodePoint} (h : c ≠ .char '\\') (t : Text) :
    tokens (c :: t) = .plain c :: tokens t := by
  cases t with
  | nil =>
    have hone : tokens [c] = [if c = .char '\\' then .dangling else .plain c] := rfl
    rw [hone, if_neg h]
    rfl
  | cons d t => rw [tokens, if_neg h]

theorem tokens_escaped (c : CodePoint) (t : Text) :
    tokens (.char '\\' :: c :: t) = .escaped c :: tokens t := by
  rw [tokens, if_pos rfl]

/-- Texts that do not end within an escape can be read one after the other. -/
theorem tokens_append {a : Text} (h : .dangling ∉ tokens a) (b : Text) :
    tokens (a ++ b) = tokens a ++ tokens b := by
  induction a using tokens.induct with
  | case1 => rfl
  | case2 c =>
    by_cases hc : c = .char '\\'
    · subst hc
      exact absurd (List.mem_singleton.mpr rfl) h
    · rw [List.singleton_append, tokens_plain hc, tokens_plain hc]
      rfl
  | case3 d t ih =>
    rw [tokens_escaped] at h
    rw [List.cons_append, List.cons_append, tokens_escaped, tokens_escaped,
      ih fun hm => h (List.mem_cons_of_mem _ hm)]
    rfl
  | case4 c d t hc ih =>
    rw [tokens_plain hc] at h
    rw [List.cons_append, tokens_plain hc, tokens_plain hc,
      ih fun hm => h (List.mem_cons_of_mem _ hm)]
    rfl

/-- A backslash that waits for a code point can only be the last token. -/
theorem getLast?_of_dangling {a : Text} (h : .dangling ∈ tokens a) :
    (tokens a).getLast? = some .dangling := by
  induction a using tokens.induct with
  | case1 => exact absurd h List.not_mem_nil
  | case2 c =>
    by_cases hc : c = .char '\\'
    · subst hc
      rfl
    · rw [tokens_plain hc] at h
      exact absurd (List.mem_singleton.mp h) (by simp)
  | case3 d t ih =>
    rw [tokens_escaped] at h ⊢
    have hm : .dangling ∈ tokens t := by
      rcases List.mem_cons.mp h with h | h
      · cases h
      · exact h
    rw [List.getLast?_cons_of_ne_nil (List.ne_nil_of_mem hm), ih hm]
  | case4 c d t hc ih =>
    rw [tokens_plain hc] at h ⊢
    have hm : .dangling ∈ tokens (d :: t) := by
      rcases List.mem_cons.mp h with h | h
      · cases h
      · exact h
    rw [List.getLast?_cons_of_ne_nil (List.ne_nil_of_mem hm), ih hm]

/-- The token of a code point in a quoted text. -/
def quotedToken (c : CodePoint) : Token := if isSpecial c then .escaped c else .plain c

/-- A quoted text is read as one token for each code point. -/
theorem tokens_quote (t : Text) : tokens (quote t) = t.map quotedToken := by
  induction t with
  | nil => rfl
  | cons c t ih =>
    rw [quote_cons, List.map_cons, quotedToken]
    by_cases hc : isSpecial c = true
    · rw [escapeOne_special hc, if_pos hc]
      exact (tokens_escaped c (quote t)).trans (congrArg _ ih)
    · have hne : c ≠ .char '\\' := fun e => hc (e ▸ isSpecial_backslash)
      rw [escapeOne_plain hc, if_neg hc]
      exact (tokens_plain hne (quote t)).trans (congrArg _ ih)

theorem dangling_not_mem_quote (t : Text) : .dangling ∉ tokens (quote t) := by
  rw [tokens_quote]
  intro h
  obtain ⟨c, -, hc⟩ := List.mem_map.mp h
  unfold quotedToken at hc
  split at hc <;> cases hc

end LineSift.Regex
