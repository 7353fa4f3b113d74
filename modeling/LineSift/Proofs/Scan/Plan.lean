import LineSift.Proofs.Encoding.Lossy
import LineSift.Scan.Batch

/-!
# What is handed out, apart from who receives it

The loop over lines both cuts the unknown lines into batches and hands them out.  The two are told
apart here: `plan` is the list of batches with the position behind each, which does not depend on
the receiver, and `feed` hands a list of batches out.  The loop is the one after the other
(`loop_eq_feed`), and what a receiver can make of it is one of two things (`feed_cases`): it accepts
all batches, or it fails at one of them after accepting those before.
-/

namespace LineSift.Scan

/-- Lines that are handed out together, and the position behind the last line of the input that was
taken for them. -/
structure Batch where
  lines : List Text
  stop : Nat

/-- How the lines of an input end: the error of a line that is not text, and the position behind the
last line taken. -/
structure Ending where
  error : Option Encoding.Error
  taken : Nat

/-- Puts a batch in front of a plan. -/
def planCons (b : Batch) (p : List Batch × Ending) : List Batch × Ending := (b :: p.1, p.2)

/-- The batches that are handed out after one has been begun, and how the input ends. -/
def plan (rules : List RuleSet) (size : Nat) : List Line → List Text → Nat → List Batch × Ending
  | [], batch, taken => (if batch = [] then [] else [⟨batch, taken⟩], ⟨none, taken⟩)
  | l :: ls, batch, _ =>
    match l.text with
    | .error e => ([], ⟨some e, l.stop⟩)
    | .ok text =>
      if isUnknown rules text.strip then
        if size ≤ (batch ++ [text.strip]).length then
          planCons ⟨batch ++ [text.strip], l.stop⟩ (plan rules size ls [] l.stop)
        else plan rules size ls (batch ++ [text.strip]) l.stop
      else plan rules size ls batch l.stop

/-- No batch is empty. -/
theorem lines_ne_nil_of_mem_plan (rules : List RuleSet) (size : Nat) (lines : List Line)
    (batch : List Text) (taken : Nat) :
    ∀ b ∈ (plan rules size lines batch taken).1, b.lines ≠ [] := by
  induction lines generalizing batch taken with
  | nil =>
    intro b hb
    by_cases he : batch = []
    · simp [plan, he] at hb
    · simp only [plan, he, if_false, List.mem_singleton] at hb
      rw [hb]
      exact he
  | cons l ls ih =>
    intro b hb
    rw [plan] at hb
    cases htext : l.text with
    | error e => simp [htext] at hb
    | ok text =>
      simp only [htext] at hb
      split at hb
      · split at hb
        · rcases List.mem_cons.mp hb with rfl | hb
          · exact List.append_ne_nil_of_right_ne_nil _ (List.cons_ne_nil _ _)
          · exact ih _ _ b hb
        · exact ih _ _ b hb
      · exact ih _ _ b hb

variable {σ : Type}

/-- Hands batches out, up to the first that the receiver fails at. -/
def feed (receive : Receiver σ) (ending : Ending) : List Batch → Nat → σ → Outcome σ
  | [], received, s =>
    { state := s, taken := ending.taken, received, failure := ending.error.map .undecodable }
  | b :: bs, received, s =>
    match receive b.lines s with
    | (.ok (), s) => feed receive ending bs b.stop s
    | (.error f, s) => { state := s, taken := b.stop, received, failure := some (.receiver f) }

/-- The loop hands out the batches of the plan. -/
theorem loop_eq_feed (rules : List RuleSet) (size : Nat) (receive : Receiver σ)
    (lines : List Line) (batch : List Text) (taken received : Nat) (s : σ) :
    loop rules size receive lines batch taken received s =
      feed receive (plan rules size lines batch taken).2 (plan rules size lines batch taken).1
        received s := by
  induction lines generalizing batch taken received s with
  | nil =>
    rw [loop, plan]
    by_cases hb : batch = []
    · simp only [hb, if_true, feed, Option.map_none]
    · simp only [hb, if_false, feed, handOut]
      rcases receive batch s with ⟨_ | _, s'⟩ <;> rfl
  | cons l ls ih =>
    rw [loop, plan]
    cases l.text with
    | error e => rfl
    | ok text =>
      dsimp only
      split
      · split
        · simp only [planCons, feed, handOut]
          rcases receive (batch ++ [text.strip]) s with ⟨f | u, s'⟩
          · rfl
          · exact ih [] l.stop l.stop s'
        · exact ih _ _ _ _
      · exact ih _ _ _ _

/-! ## What a receiver makes of a plan -/

/-- A receiver accepts batches one after the other, which takes it from a state to another. -/
inductive Accepts (receive : Receiver σ) : List (List Text) → σ → σ → Prop
  | nil (s : σ) : Accepts receive [] s s
  | cons {batch : List Text} {batches : List (List Text)} {s s' s'' : σ} :
      receive batch s = (.ok (), s') → Accepts receive batches s' s'' →
      Accepts receive (batch :: batches) s s''

/-- How far the input has been received after some batches. -/
def reached (received : Nat) (bs : List Batch) : Nat := (bs.getLast?.map Batch.stop).getD received

theorem reached_cons (received : Nat) (b : Batch) (bs : List Batch) :
    reached received (b :: bs) = reached b.stop bs := by
  cases bs with
  | nil => rfl
  | cons c cs =>
    unfold reached
    rw [List.getLast?_cons_cons, List.getLast?_eq_some_getLast (List.cons_ne_nil c cs)]
    rfl

/-- Handing batches out ends in one of two ways: all of them are accepted, or the receiver fails at
one after it has accepted those before. -/
theorem feed_cases (receive : Receiver σ) (ending : Ending) (bs : List Batch) (received : Nat)
    (s : σ) :
    (∃ s', Accepts receive (bs.map Batch.lines) s s' ∧
      feed receive ending bs received s =
        { state := s', taken := ending.taken, received := reached received bs,
          failure := ending.error.map .undecodable }) ∨
    (∃ before b after s' s'' f, bs = before ++ b :: after ∧
      Accepts receive (before.map Batch.lines) s s' ∧ receive b.lines s' = (.error f, s'') ∧
      feed receive ending bs received s =
        { state := s'', taken := b.stop, received := reached received before,
          failure := some (.receiver f) }) := by
  induction bs generalizing received s with
  | nil => exact Or.inl ⟨s, .nil s, rfl⟩
  | cons b bs ih =>
    rw [feed]
    rcases hr : receive b.lines s with ⟨f | u, s₁⟩
    · exact Or.inr ⟨[], b, bs, s, s₁, f, rfl, .nil s, hr, rfl⟩
    · dsimp only
      rcases ih b.stop s₁ with ⟨s', ha, he⟩ | ⟨before, c, after, s', s'', f, hbs, ha, hc, he⟩
      · exact Or.inl ⟨s', .cons hr ha, by rw [he, reached_cons]⟩
      · refine Or.inr ⟨b :: before, c, after, s', s'', f, ?_, .cons hr ha, hc, ?_⟩
        · rw [hbs, List.cons_append]
        · rw [he, reached_cons]

/-! ## The batches of texts -/

/-- Where every line is text, all lines are taken, and the batches together are the lines that are
unknown. -/
theorem plan_of_texts (rules : List RuleSet) (size : Nat) {lines : List Line} {texts : List Text}
    (h : lines.map Line.text = texts.map .ok) (batch : List Text) (taken : Nat) :
    (plan rules size lines batch taken).2 = ⟨none, (lines.getLast?.map Line.stop).getD taken⟩ ∧
      ((plan rules size lines batch taken).1.map Batch.lines).flatten =
        batch ++ (texts.map Text.strip).filter (isUnknown rules) := by
  induction lines generalizing texts batch taken with
  | nil =>
    obtain rfl : texts = [] := List.map_eq_nil_iff.mp h.symm
    by_cases hb : batch = [] <;> simp [plan, hb]
  | cons l ls ih =>
    cases texts with
    | nil => cases h
    | cons text texts =>
      obtain ⟨htext, htexts⟩ := List.cons.inj h
      have hlast : (((l :: ls).getLast?.map Line.stop).getD taken) =
          ((ls.getLast?.map Line.stop).getD l.stop) := by
        rw [List.getLast?_cons]
        cases ls.getLast? <;> rfl
      simp only [plan, htext, hlast, List.map_cons, List.filter_cons]
      split
      · split
        · obtain ⟨hend, hlines⟩ := ih htexts [] l.stop
          exact ⟨hend, by simp [planCons, hlines]⟩
        · obtain ⟨hend, hlines⟩ := ih htexts (batch ++ [text.strip]) l.stop
          exact ⟨hend, by simp [hlines]⟩
      · exact ih htexts batch l.stop

/-! ## The batches of a file -/

/-- The unknown lines among lines of bytes, without the white space around them. -/
def unknown (rules : List RuleSet) (lines : List Bytes) : List Text :=
  (lines.map fun l => (Encoding.lossy l).strip).filter (isUnknown rules)

theorem unknown_append (rules : List RuleSet) (a b : List Bytes) :
    unknown rules (a ++ b) = unknown rules a ++ unknown rules b := by
  simp [unknown]

theorem unknown_cons (rules : List RuleSet) (l : Bytes) (ls : List Bytes) :
    unknown rules (l :: ls) = unknown rules [l] ++ unknown rules ls :=
  unknown_append rules [l] ls

/-- The plan for the lines of a file, decoded as usual. -/
def filePlan (rules : List RuleSet) (size : Nat) (lines : List Bytes) (batch : List Text)
    (start : Nat) : List Batch × Ending :=
  plan rules size (byteLines "utf-8" "replace" start lines) batch start

theorem filePlan_cons (rules : List RuleSet) (size : Nat) (l : Bytes) (ls : List Bytes)
    (batch : List Text) (start : Nat) :
    filePlan rules size (l :: ls) batch start =
      if isUnknown rules (Encoding.lossy l).strip then
        if size ≤ (batch ++ [(Encoding.lossy l).strip]).length then
          planCons ⟨batch ++ [(Encoding.lossy l).strip], start + l.length⟩
            (filePlan rules size ls [] (start + l.length))
        else filePlan rules size ls (batch ++ [(Encoding.lossy l).strip]) (start + l.length)
      else filePlan rules size ls batch (start + l.length) := by
  unfold filePlan
  rw [byteLines, plan]
  simp only [Encoding.decode_default]

/-- The whole file is taken, without an error. -/
theorem filePlan_ending (rules : List RuleSet) (size : Nat) (lines : List Bytes)
    (batch : List Text) (start : Nat) :
    (filePlan rules size lines batch start).2 = ⟨none, start + lines.flatten.length⟩ := by
  induction lines generalizing batch start with
  | nil => rfl
  | cons l ls ih =>
    have hlen : start + (l :: ls).flatten.length = start + l.length + ls.flatten.length := by
      simp [Nat.add_assoc]
    rw [filePlan_cons, hlen]
    split
    · split
      · exact ih _ _
      · exact ih _ _
    · exact ih _ _

/-- The batches together are the unknown lines. -/
theorem filePlan_lines (rules : List RuleSet) (size : Nat) (lines : List Bytes)
    (batch : List Text) (start : Nat) :
    ((filePlan rules size lines batch start).1.map Batch.lines).flatten =
      batch ++ unknown rules lines := by
  have htexts (lines : List Bytes) (start : Nat) :
      (byteLines "utf-8" "replace" start lines).map Line.text =
        (lines.map Encoding.lossy).map .ok := by
    induction lines generalizing start with
    | nil => rfl
    | cons l ls ih => rw [byteLines, List.map_cons, Encoding.decode_default, ih]; rfl
  have h := (plan_of_texts rules size (htexts lines start) batch start).2
  rwa [List.map_map] at h

/-- No batch is larger than it may be. -/
theorem filePlan_size (rules : List RuleSet) {size : Nat} (lines : List Bytes)
    {batch : List Text} (hb : batch.length < size) (start : Nat) :
    ∀ b ∈ (filePlan rules size lines batch start).1, b.lines.length ≤ size := by
  induction lines generalizing batch start with
  | nil =>
    intro b hm
    by_cases he : batch = []
    · simp [filePlan, byteLines, plan, he] at hm
    · simp only [filePlan, byteLines, plan, he, if_false, List.mem_singleton] at hm
      rw [hm]
      exact Nat.le_of_lt hb
  | cons l ls ih =>
    have hpos : 0 < size := Nat.zero_lt_of_lt hb
    intro b hm
    rw [filePlan_cons] at hm
    split at hm
    · split at hm
      · rcases List.mem_cons.mp hm with rfl | hm
        · simp only [List.length_append, List.length_singleton]
          omega
        · have hnone : ([] : List Text).length < size := hpos
          exact ih hnone _ b hm
      · next hlt =>
        exact ih (by omega) _ b hm
    · exact ih hb _ b hm

/-- Behind each batch there is a line up to which the unknown lines are just those of the batches so
far: the batch that is begun next starts from nothing. -/
theorem filePlan_reached (rules : List RuleSet) (size : Nat) {lines : List Bytes}
    {batch : List Text} {start : Nat} {before after : List Batch} {b : Batch}
    (h : (filePlan rules size lines batch start).1 = before ++ b :: after) :
    ∃ n, b.stop = start + (lines.take n).flatten.length ∧
      ((before ++ [b]).map Batch.lines).flatten = batch ++ unknown rules (lines.take n) := by
  induction lines generalizing batch start before with
  | nil =>
    have hl := filePlan_lines rules size [] batch start
    by_cases he : batch = []
    · simp [filePlan, byteLines, plan, he] at h
    · simp only [filePlan, byteLines, plan, he, if_false] at h
      obtain ⟨rfl, hb⟩ : before = [] ∧ [⟨batch, start⟩] = b :: after := by
        cases before with
        | nil => exact ⟨rfl, h⟩
        | cons c cs => simp at h
      cases hb
      exact ⟨0, by simp, by simp [unknown]⟩
  | cons l ls ih =>
    -- what is said of the rest of the lines is said of all with one line more in front
    have hlen : ∀ n, start + l.length + (ls.take n).flatten.length =
        start + ((l :: ls).take (n + 1)).flatten.length := fun n => by
      rw [List.take_succ_cons, List.flatten_cons, List.length_append, Nat.add_assoc]
    have htext : ∀ n, unknown rules ((l :: ls).take (n + 1)) =
        unknown rules [l] ++ unknown rules (ls.take n) := fun n => by
      rw [List.take_succ_cons, unknown_cons rules l (ls.take n)]
    rw [filePlan_cons] at h
    split at h
    · next hu =>
      have hl : unknown rules [l] = [(Encoding.lossy l).strip] := by simp [unknown, hu]
      split at h
      · cases before with
        | nil =>
          rw [List.nil_append, planCons] at h
          cases h
          exact ⟨1, by simp, by simp [hl]⟩
        | cons c cs =>
          rw [List.cons_append, planCons] at h
          obtain ⟨rfl, h'⟩ := List.cons.inj h
          obtain ⟨n, hs, ht⟩ := ih h'
          refine ⟨n + 1, hs.trans (hlen n), ?_⟩
          rw [List.cons_append, List.map_cons, List.flatten_cons, ht, htext, hl]
          simp
      · obtain ⟨n, hs, ht⟩ := ih h
        refine ⟨n + 1, hs.trans (hlen n), ?_⟩
        rw [ht, htext, hl, List.append_assoc]
    · next hu =>
      have hl : unknown rules [l] = [] := by simp [unknown, hu]
      obtain ⟨n, hs, ht⟩ := ih h
      refine ⟨n + 1, hs.trans (hlen n), ?_⟩
      rw [ht, htext, hl, List.nil_append]

end LineSift.Scan
