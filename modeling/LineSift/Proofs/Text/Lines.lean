import LineSift.Proofs.Text.Replace
import LineSift.Text.Lines

/-!
# Lines joined again, and tabs

The lines of a text joined by line feeds give the text with each of its line ends read as a line
feed, and lines without line ends are told apart again when they have been joined, by whichever line
end it is (`lines_join_lineEnd`).  Replacing the tabs of a text goes from left to right: of what
stands before only the column reached matters, and a part without tabs stays as it is.  Behind a
line feed lines, tabs and columns begin anew (`lines_append`, `expandTabsFrom_lineFeed`,
`columnAt_below`).
-/

namespace LineSift.Text

theorem lines_ne_nil (t : Text) : t.lines ≠ [] := by
  fun_induction lines t with
  | case1 => exact List.cons_ne_nil _ _
  | case2 => exact List.cons_ne_nil _ _
  | case3 => exact List.cons_ne_nil _ _
  | case4 c t _ _ ih =>
    intro h
    exact ih (List.modifyHead_eq_nil_iff.mp h)

/-- The lines are what stands between line ends, of whatever kind. -/
theorem join_lines (t : Text) : join [.char '\n'] t.lines = t.unifyLineEnds := by
  fun_induction lines t with
  | case1 => rfl
  | case2 t ih =>
    rw [join_cons _ _ (lines_ne_nil t), ih, unifyLineEnds]
    rfl
  | case3 c t hcr hc ih =>
    rw [join_cons _ _ (lines_ne_nil t), ih, unifyLineEnds]
    · rcases hc with rfl | rfl <;> rfl
    · exact hcr
  | case4 c t hcr hc ih =>
    rw [join_modifyHead _ _ (lines_ne_nil t), ih, unifyLineEnds, if_neg fun h => hc (.inl h)]
    exact hcr

/-- What can stand at the end of a line. -/
inductive IsLineEnd : Text → Prop
  | lineFeed : IsLineEnd [.char '\n']
  | both : IsLineEnd [.char '\r', .char '\n']
  | carriageReturn : IsLineEnd [.char '\r']

/-- A text without line ends goes to the first line of what stands behind it. -/
theorem lines_append_of_not_mem {line : Text} (hr : .char '\r' ∉ line) (hn : .char '\n' ∉ line)
    (t : Text) : lines (line ++ t) = (lines t).modifyHead (line ++ ·) := by
  induction line with
  | nil => exact (congrFun List.modifyHead_id _).symm
  | cons c line ih =>
    obtain ⟨hcr, hr⟩ := List.ne_and_not_mem_of_not_mem_cons hr
    obtain ⟨hcn, hn⟩ := List.ne_and_not_mem_of_not_mem_cons hn
    rw [List.cons_append, lines, if_neg (not_or_intro (Ne.symm hcr) (Ne.symm hcn)), ih hr hn,
      List.modifyHead_modifyHead]
    · rfl
    · exact fun t' h => absurd h.symm hcr

/-- A carriage return ends a line by itself if no line feed follows. -/
theorem lines_carriageReturn {t : Text} (h : t.head? ≠ some (.char '\n')) :
    lines (.char '\r' :: t) = [] :: lines t := by
  rw [lines, if_pos (.inl rfl)]
  rintro u - rfl
  exact h rfl

/-- A text up to the first line feed is the first line, if no carriage return stands in it. -/
theorem lines_append_lineFeed {line : Text} (hr : .char '\r' ∉ line) (hn : .char '\n' ∉ line)
    (t : Text) : lines (line ++ .char '\n' :: t) = line :: lines t := by
  have hfirst : lines (.char '\n' :: t) = [] :: lines t := by
    rw [lines, if_pos (.inr rfl)]
    exact fun t' h => absurd h (by simp)
  rw [lines_append_of_not_mem hr hn, hfirst, List.modifyHead_cons, List.append_nil]

/-- A text without line ends is a line. -/
theorem lines_of_not_mem {line : Text} (hr : .char '\r' ∉ line) (hn : .char '\n' ∉ line) :
    lines line = [line] := by
  have h := lines_append_of_not_mem hr hn []
  rwa [List.append_nil, lines, List.modifyHead_cons, List.append_nil] at h

/-- Behind a line feed the lines begin anew. -/
theorem lines_append {a : Text} (hr : .char '\r' ∉ a) (b : Text) :
    lines (a ++ .char '\n' :: b) = lines a ++ lines b := by
  induction a with
  | nil => exact lines_append_lineFeed hr List.not_mem_nil b
  | cons c a ih =>
    obtain ⟨hcr, hr⟩ := List.ne_and_not_mem_of_not_mem_cons hr
    rw [List.cons_append, lines, lines, ih hr]
    · split
      · rfl
      · obtain ⟨line, ls, hls⟩ := List.exists_cons_of_ne_nil (lines_ne_nil a)
        rw [hls]
        rfl
    · exact fun t' h => absurd h.symm hcr
    · exact fun t' h => absurd h.symm hcr

/-- No line has a line end in it. -/
theorem lineEnd_not_mem_lines (t : Text) :
    ∀ line ∈ t.lines, .char '\r' ∉ line ∧ .char '\n' ∉ line := by
  fun_induction lines t with
  | case1 => simp
  | case2 t ih => exact List.forall_mem_cons.mpr ⟨by simp, ih⟩
  | case3 c t _ _ ih => exact List.forall_mem_cons.mpr ⟨by simp, ih⟩
  | case4 c t _ hc ih =>
    obtain ⟨hr, hn⟩ := not_or.mp hc
    obtain ⟨first, later, hlines⟩ := List.exists_cons_of_ne_nil (lines_ne_nil t)
    rw [hlines] at ih ⊢
    obtain ⟨hfirst, hlater⟩ := List.forall_mem_cons.mp ih
    exact List.forall_mem_cons.mpr
      ⟨⟨List.not_mem_cons_of_ne_of_not_mem (Ne.symm hr) hfirst.1,
        List.not_mem_cons_of_ne_of_not_mem (Ne.symm hn) hfirst.2⟩, hlater⟩

theorem mem_join {c : CodePoint} {sep : Text} {ts : List Text} (h : c ∈ join sep ts) :
    c ∈ sep ∨ ∃ t ∈ ts, c ∈ t := by
  fun_induction join sep ts with
  | case1 => exact absurd h List.not_mem_nil
  | case2 t => exact .inr ⟨t, List.mem_cons_self, h⟩
  | case3 t ts _ ih =>
    rcases List.mem_append.mp h with h | h
    · exact (List.mem_append.mp h).symm.imp_right fun h => ⟨t, List.mem_cons_self, h⟩
    · exact (ih h).imp_right fun ⟨u, hu, hc⟩ => ⟨u, List.mem_cons_of_mem _ hu, hc⟩

/-- Lines that have been joined by line ends are told apart again, whichever of them it is. -/
theorem lines_join_lineEnd {e : Text} (he : IsLineEnd e) {ls : List Text} (hne : ls ≠ [])
    (h : ∀ line ∈ ls, .char '\r' ∉ line ∧ .char '\n' ∉ line) : lines (join e ls) = ls := by
  induction ls with
  | nil => exact absurd rfl hne
  | cons line ls ih =>
    obtain ⟨⟨hr, hn⟩, hall⟩ := List.forall_mem_cons.mp h
    by_cases hls : ls = []
    · rw [hls]
      exact lines_of_not_mem hr hn
    · have hrest := ih hls hall
      have hfirst : lines (e ++ join e ls) = [] :: ls := by
        cases he with
        | lineFeed =>
          have hend := lines_append_lineFeed List.not_mem_nil List.not_mem_nil
            (join [.char '\n'] ls)
          exact hend.trans (congrArg ([] :: ·) hrest)
        | both => exact congrArg ([] :: ·) hrest
        | carriageReturn =>
          -- no line feed can follow: there is none in the lines nor between them
          have hhead : (join [.char '\r'] ls).head? ≠ some (.char '\n') := by
            intro hhead
            rcases mem_join (List.mem_of_head? hhead) with hmem | ⟨t, ht, hmem⟩
            · exact absurd hmem (by decide)
            · exact (hall t ht).2 hmem
          exact (lines_carriageReturn hhead).trans (congrArg ([] :: ·) hrest)
      rw [join_cons _ _ hls, List.append_assoc, lines_append_of_not_mem hr hn, hfirst,
        List.modifyHead_cons, List.append_nil]

/-- Lines that have been joined by line feeds are told apart again. -/
theorem lines_join {ls : List Text} (hne : ls ≠ [])
    (h : ∀ line ∈ ls, .char '\r' ∉ line ∧ .char '\n' ∉ line) : lines (join [.char '\n'] ls) = ls :=
  lines_join_lineEnd .lineFeed hne h

/-! ## Lines with the line feeds that end them -/

theorem linesWithEnds_line {line : Text} (h : .char '\n' ∉ line) (t : Text) :
    linesWithEnds (line ++ .char '\n' :: t) = (line ++ [.char '\n']) :: linesWithEnds t := by
  induction line with
  | nil => rfl
  | cons c line ih =>
    obtain ⟨hc, hline⟩ := List.ne_and_not_mem_of_not_mem_cons h
    rw [List.cons_append, linesWithEnds, if_neg hc.symm, ih hline]
    rfl

theorem linesWithEnds_append (a b : Text) :
    linesWithEnds (a ++ .char '\n' :: b) =
      linesWithEnds (a ++ [.char '\n']) ++ linesWithEnds b := by
  induction a with
  | nil => rfl
  | cons c a ih =>
    rw [List.cons_append, List.cons_append, linesWithEnds, linesWithEnds]
    split
    · rw [ih, List.cons_append]
    · have hne : linesWithEnds (a ++ [.char '\n']) ≠ [] := by
        cases a with
        | nil => exact List.cons_ne_nil _ _
        | cons d a =>
          rw [List.cons_append, linesWithEnds]
          split
          · exact List.cons_ne_nil _ _
          · split <;> exact List.cons_ne_nil _ _
      obtain ⟨l, ls, hls⟩ := List.exists_cons_of_ne_nil hne
      rw [ih, hls]
      rfl

/-- A text without line feeds is a line, unless it is empty. -/
theorem linesWithEnds_unfinished {line : Text} (hne : line ≠ []) (h : .char '\n' ∉ line) :
    linesWithEnds line = [line] := by
  induction line with
  | nil => exact absurd rfl hne
  | cons c line ih =>
    obtain ⟨hc, hline⟩ := List.ne_and_not_mem_of_not_mem_cons h
    rw [linesWithEnds, if_neg hc.symm]
    cases line with
    | nil => rfl
    | cons d line => rw [ih (List.cons_ne_nil d line) hline]

/-! ## Tabs -/

theorem expandTabsFrom_tab (col : Nat) (t : Text) :
    expandTabsFrom col (.char '\t' :: t) =
      List.replicate (8 - col % 8) (.char ' ') ++ expandTabsFrom (col + (8 - col % 8)) t := by
  rw [expandTabsFrom, if_pos rfl]

theorem expandTabsFrom_cons_of_ne (col : Nat) {c : CodePoint} (t : Text)
    (ht : c ≠ .char '\t') (hn : c ≠ .char '\n') (hr : c ≠ .char '\r') :
    expandTabsFrom col (c :: t) = c :: expandTabsFrom (col + 1) t := by
  rw [expandTabsFrom, if_neg ht, if_neg (not_or_intro hn hr)]

/-- Of what stands before a text only the column reached matters to its tabs. -/
theorem expandTabsFrom_append (col : Nat) (a : Text) :
    ∃ col', ∀ b, expandTabsFrom col (a ++ b) = expandTabsFrom col a ++ expandTabsFrom col' b := by
  fun_induction expandTabsFrom col a with
  | case1 col => exact ⟨col, fun b => rfl⟩
  | case2 col t n ih =>
    obtain ⟨col', h⟩ := ih
    refine ⟨col', fun b => ?_⟩
    rw [List.cons_append, expandTabsFrom_tab, h b, List.append_assoc]
  | case3 col c t ht hc ih =>
    obtain ⟨col', h⟩ := ih
    refine ⟨col', fun b => ?_⟩
    rw [List.cons_append, expandTabsFrom, if_neg ht, if_pos hc, h b, List.cons_append]
  | case4 col c t ht hc ih =>
    obtain ⟨col', h⟩ := ih
    refine ⟨col', fun b => ?_⟩
    rw [List.cons_append, expandTabsFrom, if_neg ht, if_neg hc, h b, List.cons_append]

theorem expandTabsFrom_of_not_mem (col : Nat) {t : Text} (h : .char '\t' ∉ t) :
    expandTabsFrom col t = t := by
  fun_induction expandTabsFrom col t with
  | case1 => rfl
  | case2 => exact absurd List.mem_cons_self h
  | case3 col c t _ _ ih => rw [ih fun ht => h (List.mem_cons_of_mem _ ht)]
  | case4 col c t _ _ ih => rw [ih fun ht => h (List.mem_cons_of_mem _ ht)]

theorem expandTabsFrom_ne_nil (col : Nat) {t : Text} (h : t ≠ []) : expandTabsFrom col t ≠ [] := by
  have hcol : 8 - col % 8 ≠ 0 := by omega
  fun_cases expandTabsFrom col t with
  | case1 => exact h
  | case2 t n => simp [n, hcol]
  | case3 => exact List.cons_ne_nil _ _
  | case4 => exact List.cons_ne_nil _ _

/-- Replacing tabs adds spaces and nothing else. -/
theorem mem_of_mem_expandTabsFrom {col : Nat} {t : Text} {c : CodePoint}
    (h : c ∈ expandTabsFrom col t) (hc : c ≠ .char ' ') : c ∈ t := by
  fun_induction expandTabsFrom col t with
  | case1 => exact h
  | case2 col t n ih =>
    rcases List.mem_append.mp h with h | h
    · exact absurd (List.eq_of_mem_replicate h) hc
    · exact List.mem_cons_of_mem _ (ih h)
  | case3 col d t _ _ ih =>
    rcases List.mem_cons.mp h with rfl | h
    · exact List.mem_cons_self
    · exact List.mem_cons_of_mem _ (ih h)
  | case4 col d t _ _ ih =>
    rcases List.mem_cons.mp h with rfl | h
    · exact List.mem_cons_self
    · exact List.mem_cons_of_mem _ (ih h)

/-- A line feed begins the columns anew. -/
theorem expandTabsFrom_lineFeed (col : Nat) (a b : Text) :
    expandTabsFrom col (a ++ .char '\n' :: b) =
      expandTabsFrom col a ++ .char '\n' :: expandTabs b := by
  obtain ⟨col', h⟩ := expandTabsFrom_append col a
  rw [h, expandTabsFrom, if_neg (by decide), if_pos (.inl rfl)]
  rfl

theorem count_lineFeed_expandTabsFrom (col : Nat) (t : Text) :
    (expandTabsFrom col t).count (.char '\n') = t.count (.char '\n') := by
  fun_induction expandTabsFrom col t with
  | case1 => rfl
  | case2 col t n ih =>
    have hspaces : (List.replicate n (CodePoint.char ' ')).count (.char '\n') = 0 :=
      List.count_eq_zero.mpr fun h => absurd (List.eq_of_mem_replicate h) (by decide)
    rw [List.count_append, hspaces, ih, Nat.zero_add, List.count_cons_of_ne (by decide)]
  | case3 col c t _ _ ih => rw [List.count_cons, List.count_cons, ih]
  | case4 col c t _ _ ih => rw [List.count_cons, List.count_cons, ih]

section Test

variable {p : CodePoint → Bool}

theorem dropWhile_expandTabsFrom (hp : p (.char '\t') = p (.char ' ')) (col : Nat) (t : Text) :
    ∃ col', (Text.expandTabsFrom col t).dropWhile p = Text.expandTabsFrom col' (t.dropWhile p) := by
  induction t generalizing col with
  | nil => exact ⟨col, rfl⟩
  | cons c t ih =>
    have hspaces : 8 - col % 8 = 7 - col % 8 + 1 := by omega
    cases hc : p c with
    | false =>
      refine ⟨col, ?_⟩
      rw [List.dropWhile_cons_of_neg (by simp [hc]), Text.expandTabsFrom]
      split
      · next htab =>
        rw [htab, hp] at hc
        simp only [hspaces, List.replicate_succ, List.cons_append]
        rw [List.dropWhile_cons_of_neg (by simp [hc])]
      · split <;> rw [List.dropWhile_cons_of_neg (by simp [hc])]
    | true =>
      rw [List.dropWhile_cons_of_pos hc, Text.expandTabsFrom]
      split
      · next htab =>
        rw [htab, hp] at hc
        dsimp only
        rw [List.dropWhile_append_of_pos fun d hd => (List.eq_of_mem_replicate hd ▸ hc)]
        exact ih _
      · split <;> rw [List.dropWhile_cons_of_pos hc] <;> exact ih _

theorem takeWhile_expandTabsFrom (htab : p (.char '\t') = false) (hspace : p (.char ' ') = false)
    (col : Nat) (t : Text) : (Text.expandTabsFrom col t).takeWhile p = t.takeWhile p := by
  induction t generalizing col with
  | nil => rfl
  | cons c t ih =>
    have hspaces : 8 - col % 8 = 7 - col % 8 + 1 := by omega
    rw [Text.expandTabsFrom]
    split
    · next hc =>
      simp only [hspaces, List.replicate_succ, List.cons_append]
      rw [List.takeWhile_cons_of_neg (by simp [hspace]), hc,
        List.takeWhile_cons_of_neg (by simp [htab])]
    · split <;> rw [List.takeWhile_cons, List.takeWhile_cons, ih]

theorem all_expandTabsFrom (hp : p (.char '\t') = p (.char ' ')) (col : Nat) (t : Text) :
    (Text.expandTabsFrom col t).all p = t.all p := by
  induction t generalizing col with
  | nil => rfl
  | cons c t ih =>
    rw [Text.expandTabsFrom, List.all_cons]
    split
    · next hc =>
      have hpos : 8 - col % 8 ≠ 0 := by omega
      dsimp only
      rw [List.all_append, List.all_replicate, if_neg hpos, ih, hc, hp]
    · split <;> rw [List.all_cons, ih]

end Test

theorem tab_not_mem_expandTabsFrom (col : Nat) (t : Text) : .char '\t' ∉ expandTabsFrom col t := by
  fun_induction expandTabsFrom col t with
  | case1 => exact List.not_mem_nil
  | case2 col t n ih =>
    refine fun hmem => (List.mem_append.mp hmem).elim (fun hspaces => ?_) ih
    exact absurd (List.eq_of_mem_replicate hspaces) (by decide)
  | case3 col c t hc _ ih => exact List.not_mem_cons_of_ne_of_not_mem (Ne.symm hc) ih
  | case4 col c t hc _ ih => exact List.not_mem_cons_of_ne_of_not_mem (Ne.symm hc) ih

/-- The lines of a text without its tabs. -/
theorem lines_expandTabs {lines : List Text} (hne : lines ≠ [])
    (hends : ∀ line ∈ lines, .char '\r' ∉ line ∧ .char '\n' ∉ line) :
    (join [.char '\n'] lines).expandTabs.lines = lines.map expandTabs := by
  induction lines with
  | nil => exact absurd rfl hne
  | cons line lines ih =>
    obtain ⟨⟨hr, hn⟩, hends⟩ := List.forall_mem_cons.mp hends
    have hr' : .char '\r' ∉ line.expandTabs := fun h => hr (mem_of_mem_expandTabsFrom h (by decide))
    have hn' : .char '\n' ∉ line.expandTabs := fun h => hn (mem_of_mem_expandTabsFrom h (by decide))
    by_cases hnil : lines = []
    · rw [hnil]
      exact lines_of_not_mem hr' hn'
    · rw [join_cons _ _ hnil, List.append_assoc, List.singleton_append, expandTabs,
        expandTabsFrom_lineFeed, ← expandTabs, lines_append_lineFeed hr' hn', ih hnil hends]
      rfl

/-! ## Positions -/

section Position

variable (a b : Text) (i : Nat)

theorem take_below :
    (a ++ .char '\n' :: b).take (a.length + 1 + i) = a ++ .char '\n' :: b.take i := by
  rw [Nat.add_assoc, List.take_length_add_append, Nat.add_comm 1, List.take_succ_cons]

/-- A position below a text is in a line of its own count, as many lines further down as the text
has. -/
theorem lineAt_below :
    lineAt (a ++ .char '\n' :: b) (a.length + 1 + i) = a.count (.char '\n') + 1 + lineAt b i := by
  rw [lineAt, lineAt, take_below, List.count_append, List.count_cons_self]
  omega

theorem columnAt_below :
    columnAt (a ++ .char '\n' :: b) (a.length + 1 + i) = columnAt b i := by
  rw [columnAt, columnAt, take_below, List.reverse_append, List.reverse_cons, List.append_assoc,
    List.takeWhile_append]
  split
  · next hall =>
    rw [List.singleton_append, List.takeWhile_cons_of_neg (by decide), List.append_nil, hall]
  · rfl

end Position

end LineSift.Text
