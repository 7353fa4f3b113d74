import LineSift.Proofs.Value.Bracketed
import LineSift.Proofs.Value.Units

/-!
# Reading a list that has been written

An element of a list is a string in one of the three kinds of quotes or a text without quotes
(`Listed`).  Each can be unquoted by itself, and each is read as a whole: a string in double quotes
that has a value is made of backslash pairs and other code points, because its units are
(`Denotes.pairedBody`), and a text without quotes ends at the next comma (`Plain.whole`).  So a list
of such elements is read back, whatever white space stands between them and around the list
(`unquoteList_listed`).
-/

namespace LineSift.Value

open Header (PairedBody Elements Bracketed)
open Text (White)

/-- A code point that begins a string in quotes. -/
def IsQuote (c : CodePoint) : Prop := c = .char '"' ∨ c = .char '\'' ∨ c = .char '`'

/-- A text without quotes that can be an element of a list. -/
structure Plain (s : Text) : Prop where
  long : 2 ≤ s.length
  no_comma : .char ',' ∉ s
  stripped : s.strip = s
  unquoted : ∀ c ∈ s.head?, ¬IsQuote c

/-- An element of a list as it is written. -/
inductive Listed : Text → Prop
  | double {s value : Text} : s.head? = some (.char '"') → unquote s = .ok value → Listed s
  | single {b : Text} : PairedBody (.char '\'') b → Listed (.char '\'' :: (b ++ [.char '\'']))
  | raw {b : Text} : .char '`' ∉ b → Listed (.char '`' :: (b ++ [.char '`']))
  | plain {s : Text} : Plain s → Listed s

/-! ## Strings in double quotes -/

theorem pairedBody_append {q : CodePoint} {w : Text}
    (hw : ∀ c ∈ w, c ≠ q ∧ c ≠ .char '\\') {b : Text}
    (hb : PairedBody q b) : PairedBody q (w ++ b) := by
  induction w with
  | nil => exact hb
  | cons c w ih =>
    obtain ⟨⟨hq, hslash⟩, hw⟩ := List.forall_mem_cons.mp hw
    exact .plain hq hslash (ih hw)

/-- Digits are neither quotes nor backslashes. -/
theorem pairedBody_digits {p : CodePoint → Bool} (hquote : p (.char '"') = false)
    (hslash : p (.char '\\') = false) {w : Text} (hw : ∀ c ∈ w, p c = true) {b : Text}
    (hb : PairedBody (.char '"') b) : PairedBody (.char '"') (w ++ b) := by
  refine pairedBody_append (fun c hc => ⟨?_, ?_⟩) hb
  · rintro rfl
    exact absurd (hw _ hc) (by rw [hquote]; decide)
  · rintro rfl
    exact absurd (hw _ hc) (by rw [hslash]; decide)

/-- A unit is made of backslash pairs and of code points that are neither the quote nor
a backslash. -/
theorem Denotes.pairedBody {w : Text} {c : CodePoint} (h : Denotes w c) {b : Text}
    (hb : PairedBody (.char '"') b) : PairedBody (.char '"') (w ++ b) := by
  cases h with
  | plain hquote hslash _ _ => exact .plain hquote hslash hb
  | letter _ _ => exact .pair hb
  | hex _ _ hdigits _ _ => exact .pair (pairedBody_digits (by decide) (by decide) hdigits hb)
  | @octal digits _ hlength hdigits _ _ =>
    cases digits with
    | nil => cases hlength
    | cons d ds =>
      exact .pair (pairedBody_digits (by decide) (by decide) (List.forall_mem_cons.mp hdigits).2 hb)

theorem MakesUp.pairedBody {units : List Text} {body value : Text} (h : MakesUp units body value) :
    PairedBody (.char '"') body := by
  obtain ⟨hdenote, rfl⟩ := h
  induction hdenote with
  | nil => exact .nil
  | cons hw _ ih => exact hw.pairedBody ih

/-- A text that begins with a double quote and has a value ends with another one. -/
theorem exists_body {s value : Text} (hs : s.head? = some (.char '"')) (h : unquote s = .ok value) :
    ∃ body, s = .char '"' :: (body ++ [.char '"']) := by
  match s, hs with
  | [_], _ => cases h
  | _ :: d :: rest, rfl =>
    have hdouble : unquoteDouble (.char '"' :: d :: rest) = .ok value := h
    rw [unquoteDouble] at hdouble
    split at hdouble
    · cases hdouble
    · next hends =>
      have hlast : (d :: rest).getLast? = some (.char '"') := not_not.mp (not_or.mp hends).2
      obtain ⟨body, hbody⟩ := List.getLast?_eq_some_iff.mp hlast
      exact ⟨body, by rw [hbody]⟩

/-! ## Texts without quotes -/

theorem quotedElement?_of_not_quote {c : CodePoint} (h : ¬IsQuote c) (t : Text) :
    quotedElement? (c :: t) = none := by
  obtain ⟨hdouble, hsingle, hraw⟩ : c ≠ .char '"' ∧ c ≠ .char '\'' ∧ c ≠ .char '`' := by
    simpa [IsQuote] using h
  simp [quotedElement?, hdouble, hsingle, hraw]

/-- Behind an element there is white space up to the end of the list or to the next comma. -/
theorem afterElement?_eq_some {t : Text} {after : AfterElement} (h : afterElement? t = some after) :
    (White t ∧ after = .last) ∨
      ∃ g rest, White g ∧ t = g ++ .char ',' :: rest ∧ after = .more rest := by
  rw [afterElement?] at h
  split at h
  · next hnil => exact Or.inl ⟨Text.stripLeft_eq_nil.mp hnil, (Option.some.inj h).symm⟩
  · next c rest hcons =>
    split at h
    · next hc =>
      refine Or.inr ⟨t.takeWhile CodePoint.isSpace, rest, Text.white_takeWhile t, ?_,
        (Option.some.inj h).symm⟩
      rw [← hc, ← hcons]
      exact List.takeWhile_append_dropWhile.symm
    · cases h

theorem comma_not_mem_white {g : Text} (h : White g) : .char ',' ∉ g := fun hmem => by
  have := h _ hmem
  revert this
  decide

/-- A text without quotes is read up to the comma, without the white space in front of it. -/
theorem plainElement_append {s : Text} (hcomma : .char ',' ∉ s)
    (hright : s.stripRight = s) {t : Text}
    {after : AfterElement} (ha : afterElement? t = some after) :
    plainElement (s ++ t) = (s, after) := by
  have hother {u : Text} (hu : .char ',' ∉ u) : ∀ c ∈ u, (c != .char ',') = true := fun c hc => by
    simpa using ne_of_mem_of_not_mem hc hu
  rw [plainElement, List.takeWhile_append_of_pos (hother hcomma),
    List.dropWhile_append_of_pos (hother hcomma)]
  rcases afterElement?_eq_some ha with ⟨ht, rfl⟩ | ⟨g, rest, hg, rfl, rfl⟩
  · have ht' := hother (comma_not_mem_white ht)
    rw [List.dropWhile_eq_nil_iff.mpr ht', List.takeWhile_eq_self_iff.mpr ht',
      Text.stripRight_white ht, hright]
  · have hg' := hother (comma_not_mem_white hg)
    rw [List.takeWhile_append_of_pos hg', List.dropWhile_append_of_pos hg',
      List.takeWhile_cons_of_neg (by simp), List.dropWhile_cons_of_neg (by simp), List.append_nil,
      Text.stripRight_white hg, hright]

namespace Plain

variable {s : Text}

theorem exists_cons (h : Plain s) : ∃ c u, s = c :: u ∧ c.isSpace = false ∧ ¬IsQuote c := by
  cases s with
  | nil => exact absurd h.long (by decide)
  | cons c u =>
    refine ⟨c, u, rfl, Text.isSpace_of_mem_head?_stripLeft (t := c :: u) ?_, h.unquoted c rfl⟩
    rw [(Text.ends_of_strip h.stripped).1]
    rfl

theorem whole (h : Plain s) : Whole s where
  begins := by
    obtain ⟨c, u, hs, hc, -⟩ := h.exists_cons
    exact ⟨c, u, hs, hc⟩
  read {t after} ha := by
    obtain ⟨c, u, hs, hc, hquote⟩ := h.exists_cons
    have hleft : (s ++ t).stripLeft = s ++ t := by
      rw [hs, List.cons_append, Text.stripLeft_cons hc]
    have hquoted : quotedElement? (s ++ t) = none := by
      rw [hs, List.cons_append, quotedElement?_of_not_quote hquote]
    rw [firstElement, hleft, hquoted]
    exact plainElement_append h.no_comma (Text.ends_of_strip h.stripped).2 ha

theorem unquote_eq (h : Plain s) : unquote s = .ok s := by
  obtain ⟨c, u, rfl, -, hquote⟩ := h.exists_cons
  obtain ⟨hdouble, hsingle, hraw⟩ : c ≠ .char '"' ∧ c ≠ .char '\'' ∧ c ≠ .char '`' := by
    simpa [IsQuote] using hquote
  cases u with
  | nil => exact absurd h.long (by decide : ¬2 ≤ 1)
  | cons d u => simp [unquote, hdouble, hsingle, hraw]

end Plain

/-! ## Other quotes -/

theorem unquote_single (b : Text) : unquote (.char '\'' :: (b ++ [.char '\''])) =
    .ok (Text.replaceAll b [.char '\\', .char '\''] [.char '\'']) := by
  have hlast : (b ++ [CodePoint.char '\'']).getLast? = some (.char '\'') := List.getLast?_concat
  have hbody : (b ++ [CodePoint.char '\'']).dropLast = b := List.dropLast_concat
  cases hrest : b ++ [CodePoint.char '\''] with
  | nil => simp at hrest
  | cons d u =>
    rw [hrest] at hlast hbody
    simp [unquote, hlast, hbody]

theorem unquote_raw {b : Text} (h : .char '`' ∉ b) :
    unquote (.char '`' :: (b ++ [.char '`'])) = .ok b := by
  have hlast : (b ++ [CodePoint.char '`']).getLast? = some (.char '`') := List.getLast?_concat
  have hbody : (b ++ [CodePoint.char '`']).dropLast = b := List.dropLast_concat
  cases hrest : b ++ [CodePoint.char '`'] with
  | nil => simp at hrest
  | cons d u =>
    rw [hrest] at hlast hbody
    simp [unquote, hlast, hbody, h]

/-! ## The list as a whole -/

namespace Listed

variable {s : Text}

theorem whole (h : Listed s) : Whole s := by
  cases h with
  | double hs hvalue =>
    obtain ⟨body, rfl⟩ := exists_body hs hvalue
    obtain ⟨units, hunits⟩ := unquote_eq_ok.mp hvalue
    exact (Delimited.paired (Or.inl rfl) hunits.pairedBody).whole
  | single hb => exact (Delimited.paired (Or.inr rfl) hb).whole
  | raw hb => exact (Delimited.raw hb).whole
  | plain hs => exact hs.whole

theorem exists_value (h : Listed s) : ∃ value, unquote s = .ok value := by
  cases h with
  | double _ hvalue => exact ⟨_, hvalue⟩
  | @single b _ => exact ⟨_, unquote_single b⟩
  | raw hb => exact ⟨_, unquote_raw hb⟩
  | plain hs => exact ⟨s, hs.unquote_eq⟩

end Listed

theorem bracketed_ends {gap : Text → Prop} {ss : List Text} {v : Text} (h : Bracketed gap ss v) :
    v.head? = some (.char '[') ∧ v.getLast? = some (.char ']') := by
  cases h <;> simp [List.getLast?_cons, List.getLast?_append]

theorem unquoteList_around {v before after : Text} (hhead : v.head? = some (.char '['))
    (hlast : v.getLast? = some (.char ']')) (hbefore : White before) (hafter : White after) :
    unquoteList (before ++ (v ++ after)) = unquoteList v := by
  have hne : v ≠ [] := by rintro rfl; cases hhead
  have hstart : ∀ c ∈ v.head?, c.isSpace = false := by
    rw [hhead]
    decide
  have hend : ∀ c ∈ v.getLast?, c.isSpace = false := by
    rw [hlast]
    decide
  have hstrip : Text.strip (before ++ (v ++ after)) = Text.strip v := by
    rw [Text.strip_around hbefore hafter hne hstart hend, Text.strip_of_ends hstart hend]
  simp only [unquoteList, hstrip]

/-- **Unquoting a list undoes writing it.**  Elements of any kind are put between brackets and
commas, with any white space between them and around the list; then what is read are the values of
the elements, in order. -/
theorem unquoteList_listed {ss : List Text} {v before after : Text} (hs : ∀ s ∈ ss, Listed s)
    (hv : Bracketed White ss v) (hbefore : White before) (hafter : White after) :
    ∃ values, ss.mapM unquote = .ok values ∧ unquoteList (before ++ (v ++ after)) = .ok values := by
  cases hvalues : ss.mapM unquote with
  | error e =>
    obtain ⟨s, hmem, he⟩ := exists_of_mapM_error hvalues
    obtain ⟨value, hvalue⟩ := (hs s hmem).exists_value
    rw [hvalue] at he
    cases he
  | ok values =>
    refine ⟨values, rfl, ?_⟩
    rw [unquoteList_around (bracketed_ends hv).1 (bracketed_ends hv).2 hbefore hafter,
      unquoteList_bracketed hv fun s h => (hs s h).whole, hvalues]

section Examples

open Text (ofString)

/-- A list with an element of every kind, commas and brackets in them, and white space around. -/
theorem unquoteList_listed_mixed :
    unquoteList (ofString "\n [\u3000\"a\\\"],\" ,'b\\',[',\t`c,'\"`,d] e ]\r\n") =
      .ok [ofString "a\"],", ofString "b',[", ofString "c,'\"", ofString "d] e"] := by
  have hbody : MakesUp [ofString "a", ofString "\\\"", ofString "]", ofString ","]
      (ofString "a\\\"],") (ofString "a\"],") := by
    refine ⟨.cons (.plain ?_ ?_ ?_ ?_) (.cons (.letter (l := '"') (n := 0x22) ?_ ?_)
      (.cons (.plain ?_ ?_ ?_ ?_) (.cons (.plain ?_ ?_ ?_ ?_) .nil))), ?_⟩
    all_goals decide
  have hdouble : unquote (ofString "\"a\\\"],\"") = .ok (ofString "a\"],") :=
    unquote_eq_ok.mpr ⟨_, hbody⟩
  have hsingle : PairedBody (.char '\'') (ofString "b\\',[") :=
    .plain (by decide) (by decide) (.pair (.plain (by decide) (by decide)
      (.plain (by decide) (by decide) .nil)))
  have hplain : Plain (ofString "d] e") :=
    ⟨by decide, by decide, by decide, by unfold IsQuote; decide⟩
  have hwritten : Bracketed White
      [ofString "\"a\\\"],\"", ofString "'b\\',['", ofString "`c,'\"`", ofString "d] e"]
      (ofString "[\u3000\"a\\\"],\" ,'b\\',[',\t`c,'\"`,d] e ]") := by
    have hwide : White (ofString "\u3000") := by unfold White; decide
    have hspace : White (ofString " ") := by unfold White; decide
    have htab : White (ofString "\t") := by unfold White; decide
    have hnone : White [] := List.forall_mem_nil _
    exact .elements hwide (.more hspace hnone (.more hnone htab (.more hnone hnone (.last hspace))))
  have hlisted : ∀ s ∈ [ofString "\"a\\\"],\"", ofString "'b\\',['", ofString "`c,'\"`",
      ofString "d] e"], Listed s := by
    simp only [List.forall_mem_cons, List.not_mem_nil, false_imp_iff, implies_true, and_true]
    exact ⟨.double rfl hdouble, .single hsingle, .raw (b := ofString "c,'\"") (by decide),
      .plain hplain⟩
  have hbefore : White (ofString "\n ") := by unfold White; decide
  have hafter : White (ofString "\r\n") := by unfold White; decide
  obtain ⟨values, hvalues, hlist⟩ := unquoteList_listed hlisted hwritten hbefore hafter
  have hwhole : ofString "\n [\u3000\"a\\\"],\" ,'b\\',[',\t`c,'\"`,d] e ]\r\n" = ofString "\n " ++
      (ofString "[\u3000\"a\\\"],\" ,'b\\',[',\t`c,'\"`,d] e ]" ++ ofString "\r\n") := by
    decide +kernel
  rw [hwhole, hlist, ← hvalues, mapM_eq_ok_iff]
  exact .cons hdouble (.cons rfl (.cons rfl (.cons rfl .nil)))

end Examples

end LineSift.Value
