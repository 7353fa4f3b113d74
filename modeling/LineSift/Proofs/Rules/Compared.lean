import LineSift.Proofs.Rules.Faded
import LineSift.Proofs.Rules.Sections

/-!
# Lines that become no separators

Where a part of a text is overwritten, a line that has dashes in another part could become a
separator.  Texts are compared line by line (`Compared`), and what comes to stand before both
changes nothing but their first lines (`Compared.cons`, `Compared.lineFeed`).  So no line becomes a
separator by a gap, by what has been overwritten, or by a piece of text that begins and ends with
other code points than white space and dashes (`Clear.gap`, `Clear.blank`, `Clear.piece`).
-/

namespace LineSift

namespace Header

/-- Whether a code point is neither white space nor a dash. -/
def Solid (c : CodePoint) : Prop := c.isLayout = false ∧ c ≠ .char '-'

theorem Solid.not_lineEnd {c : CodePoint} (h : Solid c) : c ≠ .char '\r' ∧ c ≠ .char '\n' := by
  constructor
  · rintro rfl
    exact absurd h.1 (by decide)
  · rintro rfl
    exact absurd h.1 (by decide)

/-- The sign that begins a comment is solid. -/
theorem solid_sign : Solid (.char '#') := ⟨by decide, by decide⟩

end Header

namespace Document

open Header (Solid Closed solid_sign)

theorem dashed_cons_iff {c : CodePoint} (hc : c.isBlank = true) (line : Text) :
    Dashed (c :: line) ↔ Dashed line := by
  rw [← isSeparator_iff, ← isSeparator_iff, isSeparator, isSeparator, List.dropWhile_cons_of_pos hc]

/-- A separator has no solid code points. -/
theorem not_dashed_of_solid {line : Text} {c : CodePoint} (hmem : c ∈ line) (hc : Solid c) :
    ¬ Dashed line := by
  rintro ⟨before, after, n, rfl, hbefore, hafter⟩
  have hblank : c.isBlank = true → False := fun h => by
    have hlayout := hc.1
    simp only [CodePoint.isBlank, Bool.or_eq_true, beq_iff_eq] at h
    rcases h with rfl | rfl <;> exact absurd hlayout (by decide)
  rcases List.mem_append.mp hmem with hmem | hmem
  · rcases List.mem_append.mp hmem with hmem | hmem
    · exact hblank (hbefore c hmem)
    · exact hc.2 (List.eq_of_mem_replicate hmem)
  · exact hblank (hafter c hmem)

/-- Two texts with their lines compared one by one: no line of the second but the first is a
separator without the line of the first text being one, and the first lines are as `P` says. -/
def Compared (P : Text → Text → Prop) (t t' : Text) : Prop :=
  ∃ first later first' later', t.lines = first :: later ∧ t'.lines = first' :: later' ∧
    List.Forall₂ (fun line line' => Dashed line' → Dashed line) later later' ∧ P first first'

/-- Whether no line has become a separator and the first line is none. -/
abbrev Clear : Text → Text → Prop := Compared fun _ first' => ¬ Dashed first'

/-- Whether no line has become a separator, whatever comes to stand before the first one. -/
abbrev Level : Text → Text → Prop :=
  Compared fun first first' => first' = first ∨ ∃ c ∈ first', Solid c

section Compared

variable {P Q : Text → Text → Prop} {t t' : Text}

theorem Compared.refl (h : ∀ line ∈ t.lines.head?, P line line) : Compared P t t := by
  obtain ⟨first, later, hlines⟩ := List.exists_cons_of_ne_nil (Text.lines_ne_nil t)
  rw [hlines] at h
  exact ⟨first, later, first, later, hlines, hlines, List.forall₂_same.mpr fun _ _ => id,
    h first rfl⟩

/-- Code points that end no line come to stand before the first lines. -/
theorem Compared.cons (h : Compared P t t') {c c' : CodePoint}
    (hc : c ≠ .char '\r' ∧ c ≠ .char '\n') (hc' : c' ≠ .char '\r' ∧ c' ≠ .char '\n')
    (hPQ : ∀ first first', P first first' → Q (c :: first) (c' :: first')) :
    Compared Q (c :: t) (c' :: t') := by
  have hlines {d : CodePoint} (hd : d ≠ .char '\r' ∧ d ≠ .char '\n') {u first : Text}
      {later : List Text} (hu : u.lines = first :: later) :
      Text.lines (d :: u) = (d :: first) :: later := by
    have hr : .char '\r' ∉ [d] := by simpa using hd.1.symm
    have hn : .char '\n' ∉ [d] := by simpa using hd.2.symm
    have happend := Text.lines_append_of_not_mem hr hn u
    rw [hu] at happend
    exact happend
  obtain ⟨first, later, first', later', ht, ht', hlater, hfirst⟩ := h
  exact ⟨_, later, _, later', hlines hc ht, hlines hc' ht', hlater, hPQ _ _ hfirst⟩

/-- A solid code point comes to stand before both texts. -/
theorem Compared.solid (h : Compared P t t') {c : CodePoint} (hc : Solid c) :
    Clear (c :: t) (c :: t') :=
  h.cons hc.not_lineEnd hc.not_lineEnd fun _ _ _ => not_dashed_of_solid List.mem_cons_self hc

theorem Compared.append {t t' : Text} (h : Compared (fun _ _ => True) t t') {w : Text}
    (hr : .char '\r' ∉ w) (hn : .char '\n' ∉ w) :
    Compared (fun _ _ => True) (w ++ t) (w ++ t') := by
  induction w with
  | nil => exact h
  | cons c w ih =>
    obtain ⟨hcr, hwr⟩ := List.ne_and_not_mem_of_not_mem_cons hr
    obtain ⟨hcn, hwn⟩ := List.ne_and_not_mem_of_not_mem_cons hn
    exact (ih hwr hwn).cons ⟨hcr.symm, hcn.symm⟩ ⟨hcr.symm, hcn.symm⟩ fun _ _ _ => trivial

/-- A line feed begins a new line in both texts. -/
theorem Compared.lineFeed (h : Compared P t t')
    (hP : ∀ first first', P first first' → Dashed first' → Dashed first) (hQ : Q [] []) :
    Compared Q (.char '\n' :: t) (.char '\n' :: t') := by
  have hlines (u : Text) : Text.lines (.char '\n' :: u) = [] :: u.lines :=
    Text.lines_append_lineFeed List.not_mem_nil List.not_mem_nil u
  obtain ⟨first, later, first', later', ht, ht', hlater, hfirst⟩ := h
  refine ⟨[], first :: later, [], first' :: later', ?_, ?_, .cons (hP _ _ hfirst) hlater, hQ⟩
  · rw [hlines, ht]
  · rw [hlines, ht']

theorem not_dashed_nil : ¬ Dashed [] := by
  rw [← isSeparator_iff]
  decide

theorem Level.dashed {first first' : Text} (h : first' = first ∨ ∃ c ∈ first', Solid c)
    (hd : Dashed first') : Dashed first := by
  rcases h with rfl | ⟨c, hmem, hc⟩
  · exact hd
  · exact absurd hd (not_dashed_of_solid hmem hc)

/-- White space comes to stand before both texts. -/
theorem Clear.layout (h : Clear t t') {c : CodePoint} (hc : c.isLayout = true)
    (hr : c ≠ .char '\r') :
    Clear (c :: t) (c :: t') := by
  by_cases hn : c = .char '\n'
  · subst hn
    exact h.lineFeed (fun _ _ hfirst hd => absurd hd hfirst) not_dashed_nil
  · have hblank : c.isBlank = true := by
      rcases CodePoint.isLayout_iff.mp hc with rfl | rfl | hc | hc
      · decide
      · decide
      · exact absurd hc hn
      · exact absurd hc hr
    exact h.cons ⟨hr, hn⟩ ⟨hr, hn⟩ fun _ _ hfirst => mt (dashed_cons_iff hblank _).mp hfirst

theorem Clear.gap (h : Clear t t') {g : Text} (hg : Closed g) (hr : .char '\r' ∉ g) :
    Clear (g ++ t) (g ++ t') := by
  induction hg with
  | nil => exact h
  | @layout c g hc _ ih =>
    obtain ⟨hcr, hr⟩ := List.ne_and_not_mem_of_not_mem_cons hr
    exact (ih hr).layout hc hcr.symm
  | @comment w g hw _ ih =>
    obtain ⟨hwr, hgr⟩ := not_or.mp (mt List.mem_append.mpr (List.not_mem_of_not_mem_cons hr))
    have hend : Compared (fun _ _ => True) (.char '\n' :: (g ++ t)) (.char '\n' :: (g ++ t')) :=
      (ih (List.not_mem_of_not_mem_cons hgr)).lineFeed
        (fun _ _ hfirst hd => absurd hd hfirst) trivial
    rw [List.cons_append, List.cons_append, List.append_assoc, List.append_assoc]
    exact (hend.append hwr hw).solid solid_sign

/-- What has been overwritten makes no separator of the line that goes on behind it. -/
theorem Clear.blank (h : Clear t t') {piece : Text} (hr : .char '\r' ∉ piece) :
    Clear (piece ++ t) (Header.blank piece ++ t') := by
  induction piece with
  | nil => exact h
  | cons c piece ih =>
    obtain ⟨hcr, hr⟩ := List.ne_and_not_mem_of_not_mem_cons hr
    by_cases hc : c.isLayout
    · have hsame : Header.blank (c :: piece) = c :: Header.blank piece := by simp [Header.blank, hc]
      rw [hsame]
      exact (ih hr).layout hc hcr.symm
    · have hspace : Header.blank (c :: piece) = .char ' ' :: Header.blank piece := by
        simp [Header.blank, hc]
      rw [hspace]
      refine (ih hr).cons ⟨hcr.symm, ?_⟩ ⟨by decide, by decide⟩ fun _ _ hfirst =>
        mt (dashed_cons_iff (by decide) _).mp hfirst
      rintro rfl
      exact hc (by decide)

/-- A piece that is kept has its lines in both texts, and those it shares with other texts are none
of the separators. -/
theorem Clear.piece (h : Clear t t') {c e : CodePoint} (hc : Solid c) (he : Solid e) {w : Text}
    (hr : .char '\r' ∉ w) : Clear (c :: (w ++ [e]) ++ t) (c :: (w ++ [e]) ++ t') := by
  have hlast : Level (e :: t) (e :: t') :=
    h.cons he.not_lineEnd he.not_lineEnd fun _ _ _ => .inr ⟨e, List.mem_cons_self, he⟩
  have hwithin : Level (w ++ e :: t) (w ++ e :: t') := by
    induction w with
    | nil => exact hlast
    | cons d w ih =>
      obtain ⟨hdr, hwr⟩ := List.ne_and_not_mem_of_not_mem_cons hr
      by_cases hd : d = .char '\n'
      · rw [hd]
        exact (ih hwr).lineFeed (fun _ _ => Level.dashed) (.inl rfl)
      · refine (ih hwr).cons ⟨hdr.symm, hd⟩ ⟨hdr.symm, hd⟩ fun _ _ hfirst => ?_
        rcases hfirst with rfl | ⟨s, hmem, hs⟩
        · exact .inl rfl
        · exact .inr ⟨s, List.mem_cons_of_mem _ hmem, hs⟩
  rw [List.cons_append, List.cons_append, List.append_assoc, List.append_assoc]
  exact hwithin.solid hc

end Compared

/-- A gap up to the end of a text does not begin with a separator. -/
theorem clear_of_gap {v : Text} (h : Header.skip v = []) (hr : .char '\r' ∉ v) : Clear v v := by
  induction v with
  | nil =>
    refine .refl fun line hline => ?_
    obtain rfl := Option.some.inj hline
    exact not_dashed_nil
  | cons c v ih =>
    obtain ⟨hcr, hr⟩ := List.ne_and_not_mem_of_not_mem_cons hr
    rw [Header.skip, Header.skipFrom] at h
    split at h
    · next hc => exact (ih h hr).layout hc hcr.symm
    · split at h
      · next hc =>
        have hsame : Compared (fun _ _ => True) v v := .refl fun _ _ => trivial
        rw [hc]
        exact hsame.solid solid_sign
      · cases h

theorem Clear.not_dashed {t t' : Text} (h : Clear t t') (ht : ∀ line ∈ t.lines, ¬ Dashed line) :
    ∀ line ∈ t'.lines, ¬ Dashed line := by
  obtain ⟨first, later, first', later', hlines, hlines', hlater, hfirst⟩ := h
  rw [hlines] at ht
  rw [hlines']
  refine List.forall_mem_cons.mpr ⟨hfirst, fun line' hline' hd => ?_⟩
  obtain ⟨line, hline, hdashed⟩ := exists_of_mem_of_forall₂ hlater hline'
  exact ht line (List.mem_cons_of_mem _ hline) (hdashed hd)

end Document

end LineSift
