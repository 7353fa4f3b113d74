import LineSift.Command.Terminal
import LineSift.Proofs.Effect
import LineSift.Proofs.Scan.Content

/-!
# What has been printed

A printer has always printed whole lines (`Printer.Shows`), because there are no line feeds within
unknown lines (`lineFeed_not_mem_unknownIn`).  Lines are printed up to the number after which nobody
reads on; if there are more of them, printing fails with the first of the others (`lines_apply`).
-/

namespace LineSift

open Text (ofString)

/-- Nothing but the end of a line is stripped from it as far as line feeds are concerned. -/
theorem Text.lineFeed_not_mem_strip {u : Text} (h : .char '\n' ∉ u) :
    .char '\n' ∉ Text.strip u ∧ .char '\n' ∉ Text.strip (u ++ [.char '\n']) := by
  have hdrop {t : Text} (ht : .char '\n' ∉ t) : .char '\n' ∉ t.dropWhile CodePoint.isSpace :=
    fun hm => ht ((List.dropWhile_sublist _).subset hm)
  have hright {t : Text} (ht : .char '\n' ∉ t) : .char '\n' ∉ Text.stripRight t := by
    rw [Text.stripRight, List.mem_reverse]
    exact hdrop fun hm => ht (List.mem_reverse.mp hm)
  refine ⟨hright (hdrop h), ?_⟩
  have hend (t : Text) : Text.stripRight (t ++ [.char '\n']) = Text.stripRight t := by
    rw [Text.stripRight, List.reverse_append]
    rfl
  rw [Text.strip, Text.stripLeft, List.dropWhile_append]
  split
  · exact List.not_mem_nil
  · rw [hend]
    exact hright (hdrop h)

/-- No unknown line has a line feed in it. -/
theorem Scan.lineFeed_not_mem_unknownIn (rules : List RuleSet) (bytes : Bytes) :
    ∀ l ∈ unknownIn rules bytes, .char '\n' ∉ l := by
  intro l hl
  obtain ⟨line, hline, rfl⟩ := List.mem_map.mp (List.mem_filter.mp hl).1
  obtain ⟨body, hbody, rfl | rfl⟩ := Encoding.mem_byteLines hline
  · exact (Text.lineFeed_not_mem_strip (Encoding.lineFeed_not_mem_lossy hbody)).1
  · rw [Encoding.lossy_append_lineFeed, Encoding.lossy_nil]
    exact (Text.lineFeed_not_mem_strip (Encoding.lineFeed_not_mem_lossy hbody)).2

namespace Command.Printer

/-- Lines as they are printed. -/
def asLines (ls : List Text) : Text := ls.flatMap (· ++ [.char '\n'])

/-- A printer has printed whole lines, and no more of them than are read. -/
structure Shows (p : Printer) (ls : List Text) : Prop where
  output : p.output = asLines ls
  count : p.output.count (.char '\n') = ls.length
  room : ∀ n, p.limit = some n → ls.length ≤ n

theorem isClosed_iff {p : Printer} {ls : List Text} (h : p.Shows ls) :
    p.isClosed = true ↔ p.limit = some ls.length := by
  rw [isClosed, h.count, Option.any_eq_true]
  constructor
  · rintro ⟨n, hn, hle⟩
    have := h.room n hn
    have hle := of_decide_eq_true hle
    rw [hn]
    exact congrArg some (by omega)
  · intro hn
    exact ⟨_, hn, decide_eq_true (Nat.le_refl _)⟩

theorem write_apply (t : Text) (p : Printer) :
    write t p =
      if p.isClosed then (.error ⟨.brokenPipe, []⟩, p)
      else (.ok (), { p with printed := t :: p.printed }) := by
  unfold write
  rw [Effect.get_bind]
  by_cases h : p.isClosed
  · rw [if_pos h, if_pos h]
    rfl
  · rw [if_neg h, if_neg h]
    rfl

theorem output_cons (p : Printer) (t : Text) :
    ({ p with printed := t :: p.printed } : Printer).output = p.output ++ t := by
  simp [output]

/-- A line is printed as a whole, or nothing of it. -/
theorem line_apply {p : Printer} {ls : List Text} (h : p.Shows ls) {t : Text}
    (ht : .char '\n' ∉ t) :
    (p.limit = some ls.length ∧ line t p = (.error ⟨.brokenPipe, []⟩, p)) ∨
    (∃ p', line t p = (.ok (), p') ∧ p'.limit = p.limit ∧ p'.Shows (ls ++ [t])) := by
  by_cases hc : p.isClosed
  · refine Or.inl ⟨(isClosed_iff h).mp hc, Effect.bind_error ?_⟩
    rw [write_apply, if_pos hc]
  · have hroom : ∀ n, p.limit = some n → (ls ++ [t]).length ≤ n := by
      intro n hn
      have hle := h.room n hn
      have hne : n ≠ ls.length := by
        rintro rfl
        exact hc ((isClosed_iff h).mpr hn)
      rw [List.length_append, List.length_singleton]
      omega
    have hcount : (p.output ++ t).count (.char '\n') = ls.length := by
      rw [List.count_append, h.count, List.count_eq_zero.mpr ht, Nat.add_zero]
    have hopen : ({ p with printed := t :: p.printed } : Printer).isClosed = p.isClosed := by
      rw [isClosed, isClosed, output_cons, hcount, h.count]
    have houtput : ({ p with printed := [.char '\n'] :: t :: p.printed } : Printer).output =
        p.output ++ t ++ [.char '\n'] := by
      rw [← output_cons p t]
      exact output_cons { p with printed := t :: p.printed } _
    refine Or.inr ⟨{ p with printed := [.char '\n'] :: t :: p.printed }, ?_, rfl, ?_, ?_, hroom⟩
    · have hfirst : write t p = (.ok (), { p with printed := t :: p.printed }) := by
        rw [write_apply, if_neg hc]
      rw [line, Effect.bind_ok hfirst, write_apply, hopen, if_neg hc]
    · rw [houtput, h.output, asLines, asLines, List.flatMap_append, List.flatMap_singleton,
        List.append_assoc]
    · rw [houtput, List.count_append, hcount, List.length_append]
      rfl

/-- Lines are printed up to the first one that is not read any more. -/
theorem lines_apply {ls : List Text} (hls : ∀ l ∈ ls, .char '\n' ∉ l) {p : Printer}
    {done : List Text} (h : p.Shows done) :
    (∃ p', lines ls p = (.ok (), p') ∧ p'.limit = p.limit ∧ p'.Shows (done ++ ls)) ∨
    (∃ before l after p', ls = before ++ l :: after ∧
      lines ls p = (.error ⟨.brokenPipe, []⟩, p') ∧ p'.limit = p.limit ∧
      p'.Shows (done ++ before) ∧ p.limit = some (done ++ before).length) := by
  induction ls generalizing p done with
  | nil => exact Or.inl ⟨p, rfl, rfl, by rw [List.append_nil]; exact h⟩
  | cons l ls ih =>
    rcases line_apply h (hls l List.mem_cons_self) with ⟨hlimit, hline⟩ | ⟨p₁, hline, hlimit, hp₁⟩
    · exact Or.inr ⟨[], l, ls, p, rfl, Effect.bind_error hline, rfl,
        by rw [List.append_nil]; exact h, by rw [List.append_nil]; exact hlimit⟩
    · have hrest : lines (l :: ls) p = lines ls p₁ := Effect.bind_ok hline
      rcases ih (fun m hm => hls m (List.mem_cons_of_mem _ hm)) hp₁ with
        ⟨p', hlines, hsame, hp'⟩ | ⟨before, m, after, p', rfl, hlines, hsame, hp', hfull⟩
      · refine Or.inl ⟨p', hrest.trans hlines, hsame.trans hlimit, ?_⟩
        rw [List.append_cons]
        exact hp'
      · refine Or.inr ⟨l :: before, m, after, p', rfl, hrest.trans hlines, hsame.trans hlimit,
          ?_, ?_⟩
        · rw [List.append_cons]
          exact hp'
        · rw [List.append_cons, ← hlimit]
          exact hfull

/-- Batches that are received are printed. -/
theorem shows_of_accepts {batches : List (List Text)}
    (hls : ∀ l ∈ batches.flatten, .char '\n' ∉ l) {p p' : Printer} {done : List Text}
    (h : p.Shows done) (ha : Scan.Accepts receive batches p p') :
    p'.limit = p.limit ∧ p'.Shows (done ++ batches.flatten) := by
  induction ha generalizing done with
  | nil p => exact ⟨rfl, by rw [List.flatten_nil, List.append_nil]; exact h⟩
  | @cons batch batches p p₁ p' hb _ ih =>
    rw [List.flatten_cons] at hls
    have hbatch : ∀ l ∈ batch, .char '\n' ∉ l := fun l hl => hls l (List.mem_append_left _ hl)
    obtain ⟨hlimit, hp₁⟩ : p₁.limit = p.limit ∧ p₁.Shows (done ++ batch) := by
      unfold receive at hb
      rcases lines_apply hbatch h with ⟨q, hlines, hlimit, hq⟩ | ⟨_, _, _, q, -, hlines, -⟩
      · rw [hlines] at hb
        cases hb
        exact ⟨hlimit, hq⟩
      · rw [hlines] at hb
        cases hb
    obtain ⟨hlimit', hp'⟩ := ih (fun l hl => hls l (List.mem_append_right _ hl)) hp₁
    refine ⟨hlimit'.trans hlimit, ?_⟩
    rw [List.flatten_cons, ← List.append_assoc]
    exact hp'

/-- A batch that is not received is printed in part. -/
theorem shows_of_error {batch : List Text} (hls : ∀ l ∈ batch, .char '\n' ∉ l) {p p' : Printer}
    {done : List Text} (h : p.Shows done) {fault : Scan.Fault}
    (hb : receive batch p = (.error fault, p')) :
    ∃ before l after, batch = before ++ l :: after ∧ p'.Shows (done ++ before) ∧
      p.limit = some (done ++ before).length := by
  unfold receive at hb
  rcases lines_apply hls h with ⟨q, hlines, -, -⟩ | ⟨before, l, after, q, he, hlines, -, hq, hfull⟩
  · rw [hlines] at hb
    cases hb
  · rw [hlines] at hb
    cases hb
    exact ⟨before, l, after, he, hq, hfull⟩

/-- Nothing has been printed at first. -/
theorem shows_nil (limit : Option Nat) : ({ limit } : Printer).Shows [] :=
  ⟨rfl, rfl, fun _ _ => Nat.zero_le _⟩

end Command.Printer

end LineSift
