import LineSift.Proofs.Encoding.Lossy
import LineSift.Proofs.Text.Order
import LineSift.Proofs.Value.Range

/-!
# What may stand between double quotes

The body of a value in double quotes is made of units that are written one after the other.  Each is
a code point for itself or an escape: a letter, a hexadecimal numeral of fixed length, or three
octal digits behind a backslash (`Denotes`).  A unit is taken off the body whatever follows it
(`Denotes.taken`), and what is taken off denotes a code point only if it is one of these
(`Denotes.of_value`).  So a body has a value exactly if it can be divided into units, and then in
one way only (`unquote_doubleQuoted`).
-/

namespace LineSift.Value

/-- The letters behind a backslash that stand for a code point, with its number. -/
def letterEscapes : List (Char × Nat) :=
  [('a', 0x07), ('b', 0x08), ('f', 0x0C), ('n', 0x0A), ('r', 0x0D), ('t', 0x09), ('v', 0x0B),
    ('\\', 0x5C), ('"', 0x22)]

/-- The letters behind a backslash that begin a hexadecimal numeral, with the number of
its digits. -/
def hexEscapes : List (Char × Nat) := [('x', 2), ('u', 4), ('U', 8)]

/-- A unit of a body in double quotes as it is written, with the code point for which it stands. -/
inductive Denotes : Text → CodePoint → Prop
  | plain {c : CodePoint} : c ≠ .char '"' → c ≠ .char '\\' → c ≠ .char '\n' → c ≠ .char '\r' →
      Denotes [c] c
  | letter {l : Char} {n : Nat} {c : CodePoint} : (l, n) ∈ letterEscapes → c.toNat = n →
      Denotes [.char '\\', .char l] c
  | hex {l : Char} {n : Nat} {digits : Text} {c : CodePoint} : (l, n) ∈ hexEscapes →
      digits.length = n → (∀ d ∈ digits, d.isHexDigit = true) →
      Text.digitsValue 16 digits ≤ 0x10FFFF → c.toNat = Text.digitsValue 16 digits →
      Denotes (.char '\\' :: .char l :: digits) c
  | octal {digits : Text} {c : CodePoint} : digits.length = 3 →
      (∀ d ∈ digits, d.isOctDigit = true) → Text.digitsValue 8 digits ≤ 0o377 →
      c.toNat = Text.digitsValue 8 digits → Denotes (.char '\\' :: digits) c

/-- A body is divided into units that stand for the code points of a value. -/
structure MakesUp (units : List Text) (body value : Text) : Prop where
  denote : List.Forall₂ Denotes units value
  joined : units.flatten = body

/-! ## Numbers and their code points -/

theorem ofNat?_eq_some {n : Nat} {c : CodePoint} : CodePoint.ofNat? n = some c ↔ c.toNat = n := by
  constructor
  · exact CodePoint.toNat_of_ofNat?
  · rintro rfl
    cases hc : CodePoint.ofNat? c.toNat with
    | none => exact absurd c.toNat_lt (Nat.not_lt.mpr (CodePoint.ofNat?_eq_none.mp hc))
    | some d => rw [CodePoint.toNat_inj (CodePoint.toNat_of_ofNat? hc)]

theorem hexCodePoint_eq_ok {digits : Text} {c : CodePoint} :
    hexCodePoint digits = .ok c ↔ c.toNat = Text.digitsValue 16 digits := by
  rw [← ofNat?_eq_some, hexCodePoint]
  cases CodePoint.ofNat? (Text.digitsValue 16 digits) with
  | none => simp
  | some d => simp

theorem simpleEscape?_eq_some {c d : CodePoint} :
    simpleEscape? c = some d ↔ ∃ l n, (l, n) ∈ letterEscapes ∧ c = .char l ∧ d.toNat = n := by
  constructor
  · intro h
    unfold simpleEscape? at h
    split at h
    case h_10 => cases h
    all_goals
      cases h
      exact ⟨_, _, by decide, rfl, rfl⟩
  · rintro ⟨l, n, hl, rfl, hn⟩
    have hall : ∀ p ∈ letterEscapes, ∃ e, simpleEscape? (.char p.1) = some e ∧ e.toNat = p.2 := by
      simp [letterEscapes, simpleEscape?, CodePoint.toNat]
    obtain ⟨e, he, hen⟩ := hall _ hl
    rw [he, CodePoint.toNat_inj (hen.trans hn.symm)]

/-! ## Taking a unit off a body -/

theorem beginsWith_append {p : CodePoint → Bool} {w : Text} (h : ∀ d ∈ w, p d = true) (t : Text) :
    beginsWith p w.length (w ++ t) = true := by
  rw [beginsWith, List.take_left]
  exact Bool.and_eq_true_iff.mpr ⟨decide_eq_true (by simp), List.all_eq_true.mpr h⟩

theorem beginsWith_cons_of_not {p : CodePoint → Bool} {c : CodePoint} (h : p c = false) (n : Nat)
    (t : Text) : beginsWith p (n + 1) (c :: t) = false := by
  simp [beginsWith, h]

theorem escapeText_letter {l : Char} {n : Nat} (h : (l, n) ∈ letterEscapes) (t : Text) :
    escapeText (.char l :: t) = [.char l] := by
  have hl : ∀ p ∈ letterEscapes, p.1 ≠ 'x' ∧ p.1 ≠ 'u' ∧ p.1 ≠ 'U' ∧
      (CodePoint.char p.1).isOctDigit = false := by
    decide
  obtain ⟨hx, hu, hU, hoct⟩ := hl _ h
  simp [escapeText, hx, hu, hU, beginsWith_cons_of_not hoct]

theorem escapeText_hex {l : Char} {n : Nat} (h : (l, n) ∈ hexEscapes) {digits : Text}
    (hlength : digits.length = n) (hdigits : ∀ d ∈ digits, d.isHexDigit = true) (t : Text) :
    escapeText (.char l :: (digits ++ t)) = .char l :: digits := by
  have hbegins := beginsWith_append hdigits t
  have htake : (digits ++ t).take digits.length = digits := List.take_left
  rw [hlength] at hbegins htake
  simp only [hexEscapes, List.mem_cons, List.not_mem_nil, or_false, Prod.mk.injEq] at h
  rcases h with ⟨rfl, rfl⟩ | ⟨rfl, rfl⟩ | ⟨rfl, rfl⟩
  all_goals simp [escapeText, hbegins, htake]

theorem escapeText_octal {digits : Text} (hlength : digits.length = 3)
    (hdigits : ∀ d ∈ digits, d.isOctDigit = true) (t : Text) :
    escapeText (digits ++ t) = digits := by
  have hbegins := beginsWith_append hdigits t
  rw [hlength] at hbegins
  cases digits with
  | nil => cases hlength
  | cons d ds =>
    have hd := hdigits d List.mem_cons_self
    have hother : d ≠ .char 'x' ∧ d ≠ .char 'u' ∧ d ≠ .char 'U' := by
      refine ⟨?_, ?_, ?_⟩ <;> rintro rfl <;> revert hd <;> decide
    have htake : (d :: (ds ++ t)).take 3 = d :: ds := by
      rw [← List.cons_append, ← hlength, List.take_left]
    rw [List.cons_append] at hbegins ⊢
    simp only [escapeText, hother, false_and, if_false, hbegins, if_true, htake]

/-- What belongs to an escape stands at the beginning of what follows the backslash. -/
theorem escapeText_append_drop (t : Text) : escapeText t ++ t.drop (escapeText t).length = t := by
  rw [← List.prefix_iff_eq_append]
  unfold escapeText
  split
  · exact List.nil_prefix
  · next c r =>
    have hcons (n : Nat) : c :: r.take n <+: c :: r :=
      (List.prefix_cons_inj c).mpr (List.take_prefix n r)
    split
    · exact hcons 2
    split
    · exact hcons 4
    split
    · exact hcons 8
    split
    · exact List.take_prefix 3 _
    · exact hcons 0

/-- A unit as it is written. -/
def BodyUnit.written : BodyUnit → Text
  | .plain c => [c]
  | .escape esc => .char '\\' :: esc

theorem written_bodyUnits (t : Text) : ((bodyUnits t).map BodyUnit.written).flatten = t := by
  fun_induction bodyUnits t with
  | case1 => rfl
  | case2 r ih =>
    rw [List.map_cons, List.flatten_cons, ih]
    exact congrArg (.char '\\' :: ·) (escapeText_append_drop r)
  | case3 c r _ ih =>
    rw [List.map_cons, List.flatten_cons, ih]
    rfl

theorem bodyUnits_plain {c : CodePoint} (h : c ≠ .char '\\') (t : Text) :
    bodyUnits (c :: t) = .plain c :: bodyUnits t := by
  rw [bodyUnits, if_neg h]

theorem bodyUnits_escape {esc t : Text} (h : escapeText (esc ++ t) = esc) :
    bodyUnits (.char '\\' :: (esc ++ t)) = .escape esc :: bodyUnits t := by
  rw [bodyUnits, if_pos rfl, h, List.drop_left]

/-! ## The value of a unit -/

theorem value_letter (s : Text) (c d : CodePoint) :
    (BodyUnit.escape [c]).value s = .ok d ↔ simpleEscape? c = some d := by
  rw [BodyUnit.value]
  cases simpleEscape? c with
  | none => simp
  | some e => simp

theorem value_numeral (s : Text) (c : CodePoint) {digits : Text} (h : digits ≠ []) :
    (BodyUnit.escape (c :: digits)).value s =
      if c.isOctDigit then
        if Text.digitsValue 8 (c :: digits) ≤ 0o377 then
          .ok (CodePoint.ofNat (Text.digitsValue 8 (c :: digits)))
        else .error (.octalRange s)
      else hexCodePoint digits := by
  rw [BodyUnit.value]
  rintro d heq
  exact h (List.cons.inj heq).2

theorem toNat_ofNat_octal {n : Nat} (h : n ≤ 0o377) : (CodePoint.ofNat n).toNat = n := by
  rw [CodePoint.ofNat]
  cases hn : CodePoint.ofNat? n with
  | none =>
    have := CodePoint.ofNat?_eq_none.mp hn
    omega
  | some c => exact CodePoint.toNat_of_ofNat? hn

theorem hexEscape_not_octal {l : Char} {n : Nat} (h : (l, n) ∈ hexEscapes) :
    (CodePoint.char l).isOctDigit = false ∧ 0 < n := by
  have hall : ∀ p ∈ hexEscapes, (CodePoint.char p.1).isOctDigit = false ∧ 0 < p.2 := by decide
  exact hall _ h

namespace Denotes

variable {w : Text} {c : CodePoint}

/-- A unit is taken off a body whatever follows it, and stands for its code point. -/
theorem taken (h : Denotes w c) (t : Text) : ∃ u : BodyUnit, bodyUnits (w ++ t) = u :: bodyUnits t ∧
    u.written = w ∧ u ≠ .plain (.char '"') ∧ ∀ s, u.value s = .ok c := by
  cases h with
  | plain hquote hslash _ _ =>
    exact ⟨.plain c, bodyUnits_plain hslash t, rfl, fun h => hquote (BodyUnit.plain.inj h),
      fun _ => rfl⟩
  | @letter l n _ hl hc =>
    refine ⟨.escape [.char l], bodyUnits_escape (escapeText_letter hl t), rfl, nofun, fun s => ?_⟩
    exact (value_letter s _ _).mpr (simpleEscape?_eq_some.mpr ⟨l, n, hl, rfl, hc⟩)
  | @hex l n digits _ hl hlength hdigits _ hc =>
    obtain ⟨hoct, hn⟩ := hexEscape_not_octal hl
    have hne : digits ≠ [] := List.ne_nil_of_length_pos (hlength ▸ hn)
    refine ⟨.escape (.char l :: digits),
      bodyUnits_escape (escapeText_hex hl hlength hdigits t), rfl, nofun, fun s => ?_⟩
    rw [value_numeral s _ hne, if_neg (by simp [hoct])]
    exact hexCodePoint_eq_ok.mpr hc
  | @octal digits _ hlength hdigits hvalue hc =>
    refine ⟨.escape digits, bodyUnits_escape (escapeText_octal hlength hdigits t), rfl, nofun,
      fun s => ?_⟩
    cases digits with
    | nil => cases hlength
    | cons d ds =>
      have hne : ds ≠ [] := by rintro rfl; cases hlength
      rw [value_numeral s d hne, if_pos (hdigits d List.mem_cons_self), if_pos hvalue]
      exact congrArg _ (CodePoint.toNat_inj ((toNat_ofNat_octal hvalue).trans hc.symm))

/-- No line break stands in a unit. -/
theorem no_lineBreak (h : Denotes w c) : .char '\n' ∉ w ∧ .char '\r' ∉ w := by
  have hdigits {p : CodePoint → Bool} {b : CodePoint} (hb : p b = false) {ds : Text}
      (hds : ∀ d ∈ ds, p d = true) : b ∉ ds := fun hmem => by
    rw [hds b hmem] at hb
    cases hb
  cases h with
  | plain _ _ hn hr => simp [hn.symm, hr.symm]
  | @letter l n _ hl _ =>
    have hall : ∀ p ∈ letterEscapes, '\n' ≠ p.1 ∧ '\r' ≠ p.1 := by decide
    simp [(hall _ hl).1, (hall _ hl).2]
  | @hex l n digits _ hl _ hds _ _ =>
    have hall : ∀ p ∈ hexEscapes, '\n' ≠ p.1 ∧ '\r' ≠ p.1 := by decide
    simp [(hall _ hl).1, (hall _ hl).2, hdigits (b := .char '\n') (by decide) hds,
      hdigits (b := .char '\r') (by decide) hds]
  | @octal digits _ _ hds _ _ =>
    simp [hdigits (b := .char '\n') (by decide) hds, hdigits (b := .char '\r') (by decide) hds]

end Denotes

/-- What belongs to an escape: nothing at the end of the body, a single code point, a letter with
its hexadecimal digits, or three octal digits. -/
theorem escapeText_cases (t : Text) : escapeText t = [] ∨ (∃ c, escapeText t = [c]) ∨
    (∃ l n digits, (l, n) ∈ hexEscapes ∧ escapeText t = .char l :: digits ∧ digits.length = n ∧
      ∀ d ∈ digits, d.isHexDigit = true) ∨
    (escapeText t).length = 3 ∧ ∀ d ∈ escapeText t, d.isOctDigit = true := by
  unfold escapeText
  split
  · exact Or.inl rfl
  · next c r =>
    split
    · next h =>
      exact Or.inr (Or.inr (Or.inl ⟨'x', 2, r.take 2, by decide, by rw [h.1], beginsWith_take h.2⟩))
    split
    · next h =>
      exact Or.inr (Or.inr (Or.inl ⟨'u', 4, r.take 4, by decide, by rw [h.1], beginsWith_take h.2⟩))
    split
    · next h =>
      exact Or.inr (Or.inr (Or.inl ⟨'U', 8, r.take 8, by decide, by rw [h.1], beginsWith_take h.2⟩))
    split
    · next h => exact Or.inr (Or.inr (Or.inr (beginsWith_take h)))
    · exact Or.inr (Or.inl ⟨c, rfl⟩)

/-- An escape that stands for a code point is one of those that may. -/
theorem Denotes.of_escape {s t : Text} {c : CodePoint}
    (h : (BodyUnit.escape (escapeText t)).value s = .ok c) :
    Denotes (.char '\\' :: escapeText t) c := by
  rcases escapeText_cases t with he | ⟨d, he⟩ | ⟨l, n, digits, hl, he, hlength, hdigits⟩ |
    ⟨hlength, hdigits⟩
  · rw [he] at h
    cases h
  · rw [he] at h ⊢
    obtain ⟨l, n, hl, rfl, hc⟩ := simpleEscape?_eq_some.mp ((value_letter s d c).mp h)
    exact .letter hl hc
  · obtain ⟨hoct, hn⟩ := hexEscape_not_octal hl
    have hne : digits ≠ [] := List.ne_nil_of_length_pos (hlength ▸ hn)
    rw [he, value_numeral s _ hne, if_neg (by simp [hoct])] at h
    have hc := hexCodePoint_eq_ok.mp h
    rw [he]
    exact .hex hl hlength hdigits (Nat.le_of_lt_succ (hc ▸ c.toNat_lt)) hc
  · generalize escapeText t = esc at *
    cases esc with
    | nil => cases hlength
    | cons d ds =>
      have hne : ds ≠ [] := by rintro rfl; cases hlength
      rw [value_numeral s d hne, if_pos (hdigits d List.mem_cons_self)] at h
      split at h
      · next hvalue =>
        cases h
        exact .octal hlength hdigits hvalue (toNat_ofNat_octal hvalue)
      · cases h

theorem mem_bodyUnits {t : Text} {u : BodyUnit} (h : u ∈ bodyUnits t) :
    (∃ c ∈ t, c ≠ .char '\\' ∧ u = .plain c) ∨ ∃ r, u = .escape (escapeText r) := by
  fun_induction bodyUnits t with
  | case1 => cases h
  | case2 r ih =>
    rcases List.mem_cons.mp h with rfl | h
    · exact Or.inr ⟨r, rfl⟩
    · refine (ih h).imp_left ?_
      rintro ⟨c, hc, hu⟩
      exact ⟨c, List.mem_cons_of_mem _ (List.mem_of_mem_drop hc), hu⟩
  | case3 c r hc ih =>
    rcases List.mem_cons.mp h with rfl | h
    · exact Or.inl ⟨c, List.mem_cons_self, hc, rfl⟩
    · refine (ih h).imp_left ?_
      rintro ⟨d, hd, hu⟩
      exact ⟨d, List.mem_cons_of_mem _ hd, hu⟩

/-- What is taken off a body without line breaks and stands for a code point is a unit, unless it is
a double quote. -/
theorem Denotes.of_value {t s : Text} {u : BodyUnit} {c : CodePoint} (hu : u ∈ bodyUnits t)
    (hn : .char '\n' ∉ t) (hr : .char '\r' ∉ t) (hquote : u ≠ .plain (.char '"'))
    (h : u.value s = .ok c) : Denotes u.written c := by
  rcases mem_bodyUnits hu with ⟨d, hd, hslash, rfl⟩ | ⟨r, rfl⟩
  · cases h
    refine .plain (fun he => hquote (he ▸ rfl)) hslash ?_ ?_
    · rintro rfl
      exact hn hd
    · rintro rfl
      exact hr hd
  · exact Denotes.of_escape h

/-! ## The body as a whole -/

namespace MakesUp

variable {units : List Text} {body value : Text}

/-- The units into which a body is divided are those that are taken off it. -/
theorem bodyUnits_eq (h : MakesUp units body value) :
    (bodyUnits body).map BodyUnit.written = units ∧ .plain (.char '"') ∉ bodyUnits body ∧
      ∀ s, (bodyUnits body).mapM (BodyUnit.value s) = .ok value := by
  obtain ⟨hdenote, rfl⟩ := h
  induction hdenote with
  | nil => exact ⟨by simp [bodyUnits], by simp [bodyUnits], fun _ => by simp [bodyUnits]; rfl⟩
  | @cons w c ws cs hw _ ih =>
    obtain ⟨hwritten, hquote, hvalue⟩ := ih
    obtain ⟨u, hu, huw, huquote, hus⟩ := hw.taken ws.flatten
    rw [List.flatten_cons, hu]
    refine ⟨by rw [List.map_cons, huw, hwritten], ?_, fun s => ?_⟩
    · rw [List.mem_cons, not_or]
      exact ⟨huquote.symm, hquote⟩
    · rw [List.mapM_cons, hus, hvalue]
      rfl

theorem no_lineBreak (h : MakesUp units body value) :
    .char '\n' ∉ body ∧ .char '\r' ∉ body := by
  obtain ⟨hdenote, rfl⟩ := h
  induction hdenote with
  | nil => simp
  | cons hw _ ih =>
    simp only [List.flatten_cons, List.mem_append, not_or]
    exact ⟨⟨hw.no_lineBreak.1, ih.1⟩, ⟨hw.no_lineBreak.2, ih.2⟩⟩

/-- A body is divided in one way only. -/
theorem unique {units' : List Text} {value' : Text} (h : MakesUp units body value)
    (h' : MakesUp units' body value') : units = units' ∧ value = value' := by
  obtain ⟨hw, -, hvalue⟩ := h.bodyUnits_eq
  obtain ⟨hw', -, hvalue'⟩ := h'.bodyUnits_eq
  exact ⟨hw.symm.trans hw', Except.ok.inj ((hvalue []).symm.trans (hvalue' []))⟩

end MakesUp

theorem unquote_enclosed (body : Text) :
    unquote (.char '"' :: (body ++ [CodePoint.char '"'])) =
      if .char '\n' ∈ body ∨ .char '\r' ∈ body then
        .error (.lineBreak (.char '"' :: (body ++ [CodePoint.char '"'])))
      else if .plain (.char '"') ∈ bodyUnits body then
        .error (.bareQuote (.char '"' :: (body ++ [CodePoint.char '"'])))
      else (bodyUnits body).mapM
        (BodyUnit.value (.char '"' :: (body ++ [CodePoint.char '"']))) := by
  have hunquote : unquote (.char '"' :: (body ++ [CodePoint.char '"'])) =
      unquoteDouble (.char '"' :: (body ++ [CodePoint.char '"'])) := by
    cases body <;> rfl
  have hends : ¬((.char '"' :: (body ++ [CodePoint.char '"']) : Text).length < 2 ∨
      (.char '"' :: (body ++ [CodePoint.char '"']) : Text).getLast? ≠ some (.char '"')) := by
    simp [List.getLast?_cons, List.getLast?_append]
  have hbody : (.char '"' :: (body ++ [CodePoint.char '"']) : Text).tail.dropLast = body := by simp
  rw [hunquote]
  simp only [unquoteDouble, if_neg hends, hbody]

theorem unquote_eq_ok {body value : Text} :
    unquote (.char '"' :: (body ++ [CodePoint.char '"'])) = .ok value ↔
      ∃ units, MakesUp units body value := by
  rw [unquote_enclosed]
  constructor
  · intro h
    split at h
    · cases h
    · next hbreak =>
      split at h
      · cases h
      · next hquote =>
        obtain ⟨hn, hr⟩ := not_or.mp hbreak
        have hvalues := mapM_eq_ok_iff.mp h
        refine ⟨(bodyUnits body).map BodyUnit.written, ?_, written_bodyUnits body⟩
        rw [List.forall₂_map_left_iff]
        refine List.Forall₂.imp (fun u c hu => ?_)
          ((List.forall₂_and_left _ _).mpr ⟨fun u hu => hu, hvalues⟩)
        exact Denotes.of_value hu.1 hn hr (fun he => hquote (he ▸ hu.1)) hu.2
  · rintro ⟨units, h⟩
    obtain ⟨-, hquote, hvalue⟩ := h.bodyUnits_eq
    rw [if_neg (not_or.mpr h.no_lineBreak), if_neg hquote, hvalue]

/-- **A value in double quotes is accepted exactly when its body can be divided into units**, each
of them written as one of those that denote a code point; then there is one division only, and the
value is made of the code points that its units denote.  Every other body is refused. -/
theorem unquote_doubleQuoted (body : Text) :
    (∀ value, unquote (.char '"' :: (body ++ [.char '"'])) = .ok value ↔
      ∃ units, MakesUp units body value) ∧
    (∀ units units' value value', MakesUp units body value → MakesUp units' body value' →
      units = units' ∧ value = value') ∧
    ((∃ e, unquote (.char '"' :: (body ++ [.char '"'])) = .error e) ↔
      ¬∃ units value, MakesUp units body value) := by
  refine ⟨fun value => unquote_eq_ok, fun _ _ _ _ => MakesUp.unique, ?_⟩
  rw [exists_comm]
  simp only [← unquote_eq_ok]
  cases unquote (.char '"' :: (body ++ [.char '"'])) with
  | error e => simp
  | ok value => simp

/-- A body with a unit of every kind. -/
theorem unquote_doubleQuoted_mixed :
    MakesUp [Text.ofString "'", Text.ofString "\\n", Text.ofString "\\xe9", Text.ofString "\\u20AC",
        Text.ofString "\\U0001f600", Text.ofString "\\101"]
        (Text.ofString "'\\n\\xe9\\u20AC\\U0001f600\\101") (Text.ofString "'\né€😀A") ∧
      unquote (Text.ofString "\"'\\n\\xe9\\u20AC\\U0001f600\\101\"") =
        .ok (Text.ofString "'\né€😀A") := by
  have h : MakesUp [Text.ofString "'", Text.ofString "\\n", Text.ofString "\\xe9",
      Text.ofString "\\u20AC", Text.ofString "\\U0001f600", Text.ofString "\\101"]
      (Text.ofString "'\\n\\xe9\\u20AC\\U0001f600\\101") (Text.ofString "'\né€😀A") := by
    refine ⟨.cons (.plain ?_ ?_ ?_ ?_) (.cons (.letter (l := 'n') (n := 0x0A) ?_ ?_)
      (.cons (.hex (l := 'x') (n := 2) ?_ ?_ ?_ ?_ ?_)
        (.cons (.hex (l := 'u') (n := 4) ?_ ?_ ?_ ?_ ?_)
        (.cons (.hex (l := 'U') (n := 8) ?_ ?_ ?_ ?_ ?_)
          (.cons (.octal ?_ ?_ ?_ ?_) .nil))))), ?_⟩
    all_goals decide
  exact ⟨h, ((unquote_doubleQuoted _).1 _).mpr ⟨_, h⟩⟩

end LineSift.Value
