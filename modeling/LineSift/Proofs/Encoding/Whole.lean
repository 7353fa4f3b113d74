import LineSift.Proofs.Config.Source
import LineSift.Proofs.Encoding.Refusal
import LineSift.Proofs.Text.Lines
import LineSift.Proofs.Traversal

/-!
# Decoding a whole file and decoding its lines

A line feed ends whatever sequence has begun before it, in every encoding, so bytes are cut into the
same pieces behind it as if nothing stood in front (`pieces_append`).  A treatment that looks at
each piece by itself therefore comes to the same whether bytes are decoded at once or line by line
(`decode_eq_ok_lines`).  The lines of the text are those of the bytes, because nothing but a line
feed is read as one; only an unfinished line at the end can become empty (`linesWithEnds_of_lines`).
-/

namespace LineSift

/-- A treatment that looks at each piece by itself. -/
def Treatment.IsPlain (t : Treatment) : Prop := t = .refuse ∨ t = .replace ∨ t = .ignore

namespace Encoding

/-! ## Pieces by themselves -/

/-- The text that a piece is read as; none if a piece that stands for no code point is refused. -/
def Piece.text? (t : Treatment) : Piece → Option Text
  | .good _ c => some [c]
  | .bad _ _ =>
    match t with
    | .replace => some [.replacement]
    | .ignore => some []
    | _ => none

/-- The text of pieces that are read one by one. -/
def textOf? (t : Treatment) : List Piece → Option Text
  | [] => some []
  | p :: ps => (p.text? t).bind fun u => (textOf? t ps).map (u ++ ·)

variable {t : Treatment}

theorem textOf?_append (ps qs : List Piece) :
    textOf? t (ps ++ qs) = (textOf? t ps).bind fun u => (textOf? t qs).map (u ++ ·) := by
  induction ps with
  | nil => simp [textOf?]
  | cons p ps ih =>
    rw [List.cons_append, textOf?, textOf?, ih]
    cases p.text? t <;> cases textOf? t ps <;> cases textOf? t qs <;> simp

theorem treat_toOption (h : t.IsPlain) (e : Encoding) (ps : List Piece) (pos : Nat) :
    (treat e (.ok t) pos ps).toOption = textOf? t ps := by
  have hmap (x : Except Error Text) (f : Text → Text) : (x.map f).toOption = x.toOption.map f := by
    cases x <;> rfl
  induction ps generalizing pos with
  | nil => rfl
  | cons p ps ih =>
    rw [textOf?]
    cases p with
    | good bytes c =>
      rw [treat, hmap, ih]
      rfl
    | bad bytes fault =>
      rcases h with rfl | rfl | rfl
      · rfl
      · rw [treat, hmap, ih]
        rfl
      · rw [treat, ih]
        exact Option.map_id'.symm

/-- Only a treatment that refuses pieces has no text for some. -/
theorem text?_eq_none {p : Piece} (h : t.IsPlain) (hp : p.text? t = none) : t = .refuse := by
  rcases h with rfl | rfl | rfl
  · rfl
  · cases p <;> cases hp
  · cases p <;> cases hp

theorem textOf?_eq_none {ps : List Piece} (h : t.IsPlain) (hps : textOf? t ps = none) :
    t = .refuse := by
  induction ps with
  | nil => cases hps
  | cons p ps ih =>
    rw [textOf?, Option.bind_eq_none_iff] at hps
    cases hp : p.text? t with
    | none => exact text?_eq_none h hp
    | some u => exact ih (Option.map_eq_none_iff.mp (hps u hp))

theorem textOf?_eq_some_append {ps qs : List Piece} {text : Text} :
    textOf? t (ps ++ qs) = some text ↔
      ∃ u v, textOf? t ps = some u ∧ textOf? t qs = some v ∧ text = u ++ v := by
  simp only [textOf?_append, Option.bind_eq_some_iff, Option.map_eq_some_iff]
  constructor
  · rintro ⟨u, hu, v, hv, rfl⟩
    exact ⟨u, v, hu, hv, rfl⟩
  · rintro ⟨u, v, hu, hv, rfl⟩
    exact ⟨u, hu, v, hv, rfl⟩

/-- Without a piece for a line feed there is no line feed in the text. -/
theorem lineFeed_not_mem_textOf? {ps : List Piece}
    (h : ∀ p ∈ ps, p.lossy ≠ .char '\n') {text : Text}
    (htext : textOf? t ps = some text) : .char '\n' ∉ text := by
  induction ps generalizing text with
  | nil =>
    cases htext
    exact List.not_mem_nil
  | cons p ps ih =>
    obtain ⟨hp, hps⟩ := List.forall_mem_cons.mp h
    obtain ⟨u, hu, htext⟩ := Option.bind_eq_some_iff.mp htext
    obtain ⟨v, hv, rfl⟩ := Option.map_eq_some_iff.mp htext
    refine List.not_mem_append ?_ (ih hps hv)
    cases p with
    | good bytes c =>
      cases hu
      rw [List.mem_singleton]
      exact Ne.symm hp
    | bad bytes fault =>
      unfold Piece.text? at hu
      dsimp only at hu
      split at hu
      · cases hu
        decide
      · cases hu
        decide
      · cases hu

/-! ## Pieces and line feeds -/

/-- The pieces of bytes without a line feed stand for none. -/
theorem lossy_ne_lineFeed {e : Encoding} {bytes : Bytes} (h : 0x0A ∉ bytes) :
    ∀ p ∈ e.pieces bytes, p.lossy ≠ .char '\n' := by
  have hbyte {b : UInt8} (he : CodePoint.ofNat b.toNat = .char '\n') : b = 0x0A :=
    UInt8.toNat_inj.mp (CodePoint.eq_toNat_of_ofNat he (by decide))
  intro p hp he
  cases e with
  | utf8 =>
    exact lineFeed_not_mem_lossy h (List.mem_map.mpr ⟨p, hp, he⟩)
  | ascii =>
    obtain ⟨b, hb, rfl⟩ := List.mem_map.mp hp
    split at he
    · exact h (hbyte he ▸ hb)
    · exact Piece.lossy_bad _ _ he
  | latin1 =>
    obtain ⟨b, hb, rfl⟩ := List.mem_map.mp hp
    exact h (hbyte he ▸ hb)

/-- Behind a line feed the pieces are those of the rest. -/
theorem pieces_append (e : Encoding) (a b : Bytes) :
    e.pieces (a ++ 0x0A :: b) = e.pieces (a ++ [0x0A]) ++ e.pieces b := by
  cases e with
  | utf8 =>
    obtain ⟨hs, -⟩ := next_lineFeed (utf8From_sound .empty a).1
    simp [pieces, utf8Pieces, utf8From_append, utf8From, hs, Begun.close]
  | ascii => simp [pieces]
  | latin1 => simp [pieces]

/-- A line feed is a piece of its own, whatever has begun before it. -/
theorem pieces_line (e : Encoding) {body : Bytes} (h : 0x0A ∉ body) :
    ∃ ps bytes, e.pieces (body ++ [0x0A]) = ps ++ [.good bytes (.char '\n')] ∧
      ∀ p ∈ ps, p.lossy ≠ .char '\n' := by
  have hother := lossy_ne_lineFeed (e := e) h
  cases e with
  | utf8 =>
    obtain ⟨hs, hp⟩ := next_lineFeed (utf8From_sound .empty body).1
    obtain ⟨qs, lineFeed, hnext, hqs, hlineFeed⟩ := List.map_eq_append_iff.mp hp
    obtain ⟨p, rfl, hp⟩ := List.map_eq_singleton_iff.mp hlineFeed
    cases p with
    | bad bytes fault => exact absurd hp (Piece.lossy_bad _ _)
    | good bytes c =>
      obtain rfl : c = .char '\n' := hp
      refine ⟨(utf8From {} body).1 ++ qs, bytes, ?_, fun p hp => ?_⟩
      · simp [pieces, utf8Pieces, utf8From_append, utf8From, hs, hnext, Begun.close]
      · rcases List.mem_append.mp hp with hp | hp
        · exact hother p (List.mem_append_left _ hp)
        · obtain ⟨q, hq, hqp⟩ := List.mem_map.mp (hqs ▸ List.mem_map_of_mem hp)
          rw [← hqp]
          exact hother q (List.mem_append_right _ hq)
  | ascii => exact ⟨_, [0x0A], List.map_append, hother⟩
  | latin1 => exact ⟨_, [0x0A], List.map_append, hother⟩

/-! ## Lines and the whole -/

/-- The names of an encoding and of a treatment that looks at each piece by itself. -/
structure Plain (encoding treatment : Text) : Prop where
  encoding : ∃ e, ofName? encoding = some e
  treatment : ∃ t, Treatment.ofName treatment = .ok t ∧ t.IsPlain

section

variable {encoding treatment : Text}

theorem decode_toOption {e : Encoding} (he : ofName? encoding = some e)
    (ht : Treatment.ofName treatment = .ok t) (h : t.IsPlain) (bytes : Bytes) :
    (decode encoding treatment bytes).toOption = textOf? t (e.pieces bytes) := by
  unfold decode
  split
  · next hnil =>
    subst hnil
    cases e <;> rfl
  · rw [he, ht]
    exact treat_toOption h e _ 0

theorem decode_eq_ok {e : Encoding} (he : ofName? encoding = some e)
    (ht : Treatment.ofName treatment = .ok t) (h : t.IsPlain) {bytes : Bytes} {text : Text} :
    decode encoding treatment bytes = .ok text ↔ textOf? t (e.pieces bytes) = some text := by
  rw [← decode_toOption he ht h]
  cases decode encoding treatment bytes <;> simp [Except.toOption]

/-- Only under the treatment that refuses pieces can decoding fail. -/
theorem Plain.refuse_of_error (h : Plain encoding treatment) {bytes : Bytes} {e : Error}
    (he : decode encoding treatment bytes = .error e) :
    Treatment.ofName treatment = .ok .refuse ∧ e.kind = .decoding := by
  obtain ⟨⟨enc, henc⟩, t, ht, hplain⟩ := h
  have hnone := decode_toOption henc ht hplain bytes
  rw [he] at hnone
  refine ⟨by rw [ht, textOf?_eq_none hplain hnone.symm], ?_⟩
  rcases decode_error he with hkind | hnamed
  · exact hkind
  · cases hnamed with
    | encoding hunknown => rw [henc] at hunknown; cases hunknown
    | treatment _ hcause => rw [ht] at hcause; cases hcause

/-- A line and what follows it are decoded one after the other. -/
theorem Plain.decode_append (h : Plain encoding treatment) {a b : Bytes} {text : Text} :
    decode encoding treatment (a ++ 0x0A :: b) = .ok text ↔
      ∃ u v, decode encoding treatment (a ++ [0x0A]) = .ok u ∧
        decode encoding treatment b = .ok v ∧ text = u ++ v := by
  obtain ⟨⟨e, he⟩, t, ht, hplain⟩ := h
  simp only [decode_eq_ok he ht hplain, pieces_append e a b, textOf?_eq_some_append]

theorem Plain.decode_line (h : Plain encoding treatment) {body : Bytes} (hbody : 0x0A ∉ body)
    {text : Text} (htext : decode encoding treatment (body ++ [0x0A]) = .ok text) :
    ∃ line, text = line ++ [.char '\n'] ∧ .char '\n' ∉ line := by
  obtain ⟨⟨e, he⟩, t, ht, hplain⟩ := h
  obtain ⟨ps, bytes, hps, hother⟩ := pieces_line e hbody
  rw [decode_eq_ok he ht hplain, hps, textOf?_eq_some_append] at htext
  obtain ⟨line, _, hline, hlineFeed, rfl⟩ := htext
  cases hlineFeed
  exact ⟨line, rfl, lineFeed_not_mem_textOf? hother hline⟩

theorem Plain.decode_unfinished (h : Plain encoding treatment) {bytes : Bytes}
    (hbytes : 0x0A ∉ bytes)
    {text : Text} (htext : decode encoding treatment bytes = .ok text) : .char '\n' ∉ text := by
  obtain ⟨⟨e, he⟩, t, ht, hplain⟩ := h
  exact lineFeed_not_mem_textOf? (lossy_ne_lineFeed hbytes) ((decode_eq_ok he ht hplain).mp htext)

/-- **Bytes are decoded at once or line by line**, and the text is the same. -/
theorem Plain.decode_eq_ok_lines (h : Plain encoding treatment) {bytes : Bytes} {text : Text} :
    decode encoding treatment bytes = .ok text ↔
      ∃ lines, (byteLines bytes).mapM (decode encoding treatment) = .ok lines ∧
        lines.flatten = text := by
  simp only [mapM_eq_ok_iff]
  induction bytes using lineInduction generalizing text with
  | nil =>
    constructor
    · intro htext
      cases htext
      exact ⟨[], .nil, rfl⟩
    · rintro ⟨lines, hlines, rfl⟩
      cases hlines
      rfl
  | unfinished bytes hne hbytes =>
    rw [byteLines_unfinished hne hbytes]
    constructor
    · intro htext
      exact ⟨[text], .cons htext .nil, List.flatten_singleton⟩
    · rintro ⟨lines, hlines, rfl⟩
      cases hlines with
      | cons hline hnil =>
        cases hnil
        rwa [List.flatten_singleton]
  | line body rest hbody ih =>
    rw [h.decode_append, byteLines_line hbody]
    constructor
    · rintro ⟨u, v, hu, hv, rfl⟩
      obtain ⟨lines, hlines, rfl⟩ := ih.mp hv
      exact ⟨u :: lines, .cons hu hlines, rfl⟩
    · rintro ⟨lines, hlines, rfl⟩
      cases hlines with
      | cons hline hlines => exact ⟨_, _, hline, ih.mpr ⟨_, hlines, rfl⟩, rfl⟩

/-- The lines of bytes are those of their text, but for an unfinished one that has become empty. -/
theorem Plain.linesWithEnds_of_lines (h : Plain encoding treatment) {bytes : Bytes}
    {lines : List Text} (hlines : (byteLines bytes).mapM (decode encoding treatment) = .ok lines) :
    Text.linesWithEnds lines.flatten = lines.filter (· ≠ []) := by
  rw [mapM_eq_ok_iff] at hlines
  induction bytes using lineInduction generalizing lines with
  | nil =>
    cases hlines
    rfl
  | unfinished bytes hne hbytes =>
    rw [byteLines_unfinished hne hbytes] at hlines
    cases hlines with
    | @cons _ line _ _ hline hnil =>
      cases hnil
      rw [List.flatten_singleton]
      by_cases hempty : line = []
      · simp [hempty, Text.linesWithEnds]
      · rw [Text.linesWithEnds_unfinished hempty (h.decode_unfinished hbytes hline)]
        simp [hempty]
  | line body rest hbody ih =>
    rw [byteLines_line hbody] at hlines
    cases hlines with
    | cons hline hlines =>
      obtain ⟨line, rfl, hother⟩ := h.decode_line hbody hline
      rw [List.flatten_cons, List.append_assoc, List.singleton_append,
        Text.linesWithEnds_line hother, ih hlines, List.filter_cons_of_pos (by simp)]

end

/-! ## Lines that are not text -/

/-- Bytes that stand for no text in UTF-8 have a replacement character in theirs. -/
theorem replacement_mem_of_error {bytes : Bytes} {e : Error} (h : decodeStrict bytes = .error e) :
    .replacement ∈ lossy bytes := by
  by_contra hnone
  have hgood : ∀ p ∈ utf8Pieces bytes, p.IsGood := fun p hp => by
    cases p with
    | good bytes c => exact ⟨bytes, c, rfl⟩
    | bad bytes fault => exact absurd (List.mem_map.mpr ⟨_, hp, rfl⟩) hnone
  rw [decodeStrict, treat_of_good hgood] at h
  cases h

theorem decode_replace {encoding treatment : Text} (hencoding : ofName? encoding = some .utf8)
    (htreatment : Treatment.ofName treatment = .ok .replace) (bytes : Bytes) :
    decode encoding treatment bytes = .ok (lossy bytes) := by
  unfold decode
  split
  · next hnil =>
    subst hnil
    rfl
  · rw [hencoding, htreatment]
    exact treat_replace _ _ _

end Encoding

end LineSift
