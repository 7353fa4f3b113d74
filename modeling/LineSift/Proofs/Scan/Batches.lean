import Mathlib.Algebra.Order.Floor.Div
import LineSift.Proofs.Scan.Texts

/-!
# Full batches, and a short one at the end

Where all lines are text, every batch of the plan is of one of two kinds (`textPlan_split`): it is
full and ends at the line that fills it, so that no line behind has a say in it, or it is what is
left when the lines have come to their end.  With a receiver that accepts all batches or fails at
one of them this tells how many lines are taken and what has been handed out (`run_batches`).
-/

namespace LineSift.Scan

variable {σ : Type} {rules : List RuleSet} {size : Nat} {texts : List Text} {batch : List Text}
  {start : Nat}

/-- The texts that are handed out of a list of texts, without the white space around them. -/
def unknownTexts (rules : List RuleSet) (texts : List Text) : List Text :=
  (texts.map Text.strip).filter (isUnknown rules)

theorem unknownTexts_known {t : Text} (h : ¬ isUnknown rules t.strip) (ts : List Text) :
    unknownTexts rules (t :: ts) = unknownTexts rules ts := by
  simp [unknownTexts, h]

theorem unknownTexts_unknown {t : Text} (h : isUnknown rules t.strip) (ts : List Text) :
    unknownTexts rules (t :: ts) = t.strip :: unknownTexts rules ts := by
  simp [unknownTexts, h]

/-! ## The plan, line by line -/

/-- The batches of lines that are numbered on from a number. -/
def textPlan (rules : List RuleSet) (size : Nat) (lines : List (Except Encoding.Error Text))
    (batch : List Text) (start : Nat) : List Batch :=
  (plan rules size ((lines.zipIdx start).map fun (text, i) => ⟨text, i + 1⟩) batch start).1

theorem textPlan_nil : textPlan rules size [] batch start =
    if batch = [] then [] else [⟨batch, start⟩] := rfl

theorem textPlan_cons (t : Text) (lines : List (Except Encoding.Error Text)) :
    textPlan rules size (.ok t :: lines) batch start =
      if isUnknown rules t.strip then
        if size ≤ (batch ++ [t.strip]).length then
          ⟨batch ++ [t.strip], start + 1⟩ :: textPlan rules size lines [] (start + 1)
        else textPlan rules size lines (batch ++ [t.strip]) (start + 1)
      else textPlan rules size lines batch (start + 1) := by
  unfold textPlan
  rw [List.zipIdx_cons, List.map_cons, plan]
  dsimp only
  split
  · split <;> rfl
  · rfl

variable {t : Text} {lines : List (Except Encoding.Error Text)}

theorem textPlan_known (h : ¬ isUnknown rules t.strip) :
    textPlan rules size (.ok t :: lines) batch start =
      textPlan rules size lines batch (start + 1) := by
  rw [textPlan_cons, if_neg h]

theorem textPlan_kept (h : isUnknown rules t.strip) (hlt : batch.length + 1 < size) :
    textPlan rules size (.ok t :: lines) batch start =
      textPlan rules size lines (batch ++ [t.strip]) (start + 1) := by
  rw [textPlan_cons, if_pos h, if_neg (by simpa using hlt)]

theorem textPlan_full (h : isUnknown rules t.strip) (heq : batch.length + 1 = size) :
    textPlan rules size (.ok t :: lines) batch start =
      ⟨batch ++ [t.strip], start + 1⟩ :: textPlan rules size lines [] (start + 1) := by
  rw [textPlan_cons, if_pos h, if_pos (by simp [heq])]

/-- Texts one after the other: a text is known, or it is kept, or it fills the batch that
is begun. -/
theorem batchInduction (rules : List RuleSet) {size : Nat}
    {motive : List Text → (batch : List Text) → Nat → batch.length < size → Prop}
    (nil : ∀ batch start h, motive [] batch start h)
    (known : ∀ t ts batch start h, ¬ isUnknown rules t.strip → motive ts batch (start + 1) h →
      motive (t :: ts) batch start h)
    (kept : ∀ t ts batch start h h', isUnknown rules t.strip → batch.length + 1 < size →
      motive ts (batch ++ [t.strip]) (start + 1) h' → motive (t :: ts) batch start h)
    (full : ∀ t ts batch start h h', isUnknown rules t.strip → batch.length + 1 = size →
      motive ts [] (start + 1) h' → motive (t :: ts) batch start h)
    (texts : List Text) (batch : List Text) (start : Nat) (h : batch.length < size) :
    motive texts batch start h := by
  induction texts generalizing batch start with
  | nil => exact nil batch start h
  | cons t ts ih =>
    by_cases hu : isUnknown rules t.strip
    · rcases Nat.lt_or_eq_of_le (Nat.succ_le_of_lt h) with hlt | heq
      · have h' : (batch ++ [t.strip]).length < size := by simpa using hlt
        exact kept t ts batch start h h' hu hlt (ih _ _ h')
      · have h' : ([] : List Text).length < size := Nat.zero_lt_of_lt h
        exact full t ts batch start h h' hu heq (ih _ _ h')
    · exact known t ts batch start h hu (ih _ _ h)

/-! ## Each batch of the plan -/

/-- A batch that is full, with the number of texts that are taken for it: they hold enough unknown
texts to fill it and those before, fewer of them do not, and whatever stands behind them, they are
the same batches. -/
structure IsFull (rules : List RuleSet) (size : Nat) (texts : List Text) (batch : List Text)
    (start : Nat) (before : List Batch) (b : Batch) (n : Nat) : Prop where
  length : b.lines.length = size
  stop : b.stop = start + n
  count : size * (before.length + 1) ≤ batch.length + (unknownTexts rules (texts.take n)).length
  least : ∀ m < n,
    batch.length + (unknownTexts rules (texts.take m)).length < size * (before.length + 1)
  anyRest : ∀ rest, ∃ after,
    textPlan rules size ((texts.take n).map .ok ++ rest) batch start = before ++ b :: after

/-- A batch that is what is left when all texts have been taken. -/
structure IsRest (size : Nat) (texts : List Text) (start : Nat) (after : List Batch) (b : Batch) :
    Prop where
  length : b.lines.length < size
  stop : b.stop = start + texts.length
  last : after = []

theorem IsRest.cons {ts : List Text} {after : List Batch} {b : Batch}
    (h : IsRest size ts (start + 1) after b) (t : Text) : IsRest size (t :: ts) start after b := by
  refine ⟨h.length, ?_, h.last⟩
  rw [h.stop, List.length_cons]
  omega

variable {ts : List Text} {before : List Batch} {b : Batch} {n : Nat}

theorem lt_mul_succ {a size : Nat} (h : a < size) (k : Nat) : a < size * (k + 1) :=
  Nat.lt_of_lt_of_le h (Nat.le_mul_of_pos_right size (Nat.succ_pos k))

theorem IsFull.known (h : IsFull rules size ts batch (start + 1) before b n)
    (ht : ¬ isUnknown rules t.strip) (hb : batch.length < size) :
    IsFull rules size (t :: ts) batch start before b (n + 1) := by
  refine ⟨h.length, ?_, ?_, fun m hm => ?_, fun rest => ?_⟩
  · rw [h.stop]
    omega
  · rw [List.take_succ_cons, unknownTexts_known ht]
    exact h.count
  · cases m with
    | zero => exact lt_mul_succ hb _
    | succ m =>
      rw [List.take_succ_cons, unknownTexts_known ht]
      exact h.least m (Nat.lt_of_succ_lt_succ hm)
  · obtain ⟨after, hafter⟩ := h.anyRest rest
    exact ⟨after, (textPlan_known ht).trans hafter⟩

theorem IsFull.kept (h : IsFull rules size ts (batch ++ [t.strip]) (start + 1) before b n)
    (ht : isUnknown rules t.strip) (hb : batch.length + 1 < size) :
    IsFull rules size (t :: ts) batch start before b (n + 1) := by
  have hlen (u : List Text) :
      (batch ++ [t.strip]).length + u.length = batch.length + (t.strip :: u).length := by
    simp only [List.length_append, List.length_cons, List.length_nil]
    omega
  refine ⟨h.length, ?_, ?_, fun m hm => ?_, fun rest => ?_⟩
  · rw [h.stop]
    omega
  · rw [List.take_succ_cons, unknownTexts_unknown ht, ← hlen]
    exact h.count
  · cases m with
    | zero => exact lt_mul_succ (Nat.lt_of_succ_lt hb) _
    | succ m =>
      rw [List.take_succ_cons, unknownTexts_unknown ht, ← hlen]
      exact h.least m (Nat.lt_of_succ_lt_succ hm)
  · obtain ⟨after, hafter⟩ := h.anyRest rest
    exact ⟨after, (textPlan_kept ht hb).trans hafter⟩

theorem IsFull.full (h : IsFull rules size ts [] (start + 1) before b n)
    (ht : isUnknown rules t.strip) (hb : batch.length + 1 = size) :
    IsFull rules size (t :: ts) batch start
      (⟨batch ++ [t.strip], start + 1⟩ :: before) b (n + 1) := by
  have hlen (u : List Text) : batch.length + (t.strip :: u).length = size + u.length := by
    rw [List.length_cons]
    omega
  have hmul : size * (before.length + 1 + 1) = size + size * (before.length + 1) := by
    rw [Nat.mul_add_one, Nat.add_comm]
  refine ⟨h.length, ?_, ?_, fun m hm => ?_, fun rest => ?_⟩
  · rw [h.stop]
    omega
  · have hcount := h.count
    rw [List.length_nil] at hcount
    rw [List.take_succ_cons, unknownTexts_unknown ht, hlen, List.length_cons, hmul]
    omega
  · cases m with
    | zero => exact lt_mul_succ (Nat.lt_of_succ_le hb.le) _
    | succ m =>
      have hleast := h.least m (Nat.lt_of_succ_lt_succ hm)
      rw [List.length_nil] at hleast
      rw [List.take_succ_cons, unknownTexts_unknown ht, hlen, List.length_cons, hmul]
      omega
  · obtain ⟨after, hafter⟩ := h.anyRest rest
    exact ⟨after, (textPlan_full ht hb).trans (congrArg _ hafter)⟩

/-- The line that fills the batch that is begun. -/
theorem isFull_first (ht : isUnknown rules t.strip) (hb : batch.length + 1 = size) :
    IsFull rules size (t :: ts) batch start [] ⟨batch ++ [t.strip], start + 1⟩ 1 := by
  refine ⟨by simp [hb], rfl, ?_, fun m hm => ?_, fun rest => ⟨_, textPlan_full ht hb⟩⟩
  · rw [List.take_succ_cons, unknownTexts_unknown ht, List.length_cons, List.length_nil]
    omega
  · obtain rfl : m = 0 := Nat.lt_one_iff.mp hm
    exact lt_mul_succ (Nat.lt_of_succ_le hb.le) _

/-- **Each batch** is full, or it is the rest. -/
theorem textPlan_split (rules : List RuleSet) (texts : List Text) (batch : List Text) (start : Nat)
    (hb : batch.length < size) : ∀ before b after,
      textPlan rules size (texts.map .ok) batch start = before ++ b :: after →
      (∃ n, IsFull rules size texts batch start before b n) ∨ IsRest size texts start after b := by
  induction texts, batch, start, hb using batchInduction rules with
  | nil batch start hb =>
    intro before b after h
    rw [List.map_nil, textPlan_nil] at h
    split at h
    · simp at h
    · obtain ⟨rfl, hsplit⟩ : before = [] ∧ [⟨batch, start⟩] = b :: after := by
        cases before with
        | nil => exact ⟨rfl, h⟩
        | cons c cs => simp at h
      cases hsplit
      exact Or.inr ⟨hb, rfl, rfl⟩
  | known t ts batch start hb ht ih =>
    intro before b after h
    rw [List.map_cons, textPlan_known ht] at h
    rcases ih before b after h with ⟨n, hn⟩ | hrest
    · exact Or.inl ⟨n + 1, hn.known ht hb⟩
    · exact Or.inr (hrest.cons t)
  | kept t ts batch start _ _ ht hb ih =>
    intro before b after h
    rw [List.map_cons, textPlan_kept ht hb] at h
    rcases ih before b after h with ⟨n, hn⟩ | hrest
    · exact Or.inl ⟨n + 1, hn.kept ht hb⟩
    · exact Or.inr (hrest.cons t)
  | full t ts batch start _ _ ht hb ih =>
    intro before b after h
    rw [List.map_cons, textPlan_full ht hb] at h
    cases before with
    | nil =>
      rw [List.nil_append] at h
      cases h
      exact Or.inl ⟨1, isFull_first ht hb⟩
    | cons c cs =>
      rw [List.cons_append] at h
      obtain ⟨rfl, htail⟩ := List.cons.inj h
      rcases ih cs b after htail with ⟨n, hn⟩ | hrest
      · exact Or.inl ⟨n + 1, hn.full ht hb⟩
      · exact Or.inr (hrest.cons t)

/-- The sizes of the batches of a plan. -/
theorem textPlan_sizes (rules : List RuleSet) (texts : List Text) (hsize : 0 < size) :
    (∀ b ∈ (textPlan rules size (texts.map .ok) [] 0).dropLast, b.lines.length = size) ∧
      ∀ b ∈ textPlan rules size (texts.map .ok) [] 0, 1 ≤ b.lines.length ∧
        b.lines.length ≤ size := by
  have hsplit := textPlan_split rules texts [] 0 hsize
  constructor
  · intro b hb
    obtain ⟨before, after, hbefore⟩ := List.append_of_mem hb
    have hne : textPlan rules size (texts.map .ok) [] 0 ≠ [] := by
      intro hnil
      rw [hnil] at hb
      cases hb
    have hall := (List.dropLast_append_getLast hne).symm
    rw [hbefore, List.append_assoc, List.cons_append] at hall
    rcases hsplit _ _ _ hall with ⟨n, hn⟩ | hrest
    · exact hn.length
    · simpa using hrest.last
  · intro b hb
    refine ⟨List.length_pos_iff.mpr (lines_ne_nil_of_mem_plan _ _ _ _ _ b hb), ?_⟩
    obtain ⟨before, after, hall⟩ := List.append_of_mem hb
    rcases hsplit _ _ _ hall with ⟨n, hn⟩ | hrest
    · exact hn.length.le
    · exact hrest.length.le

/-- How many batches of a size make up a list, if only the last may be smaller. -/
theorem length_of_sizes {α : Type} {batches : List (List α)} (hsize : 0 < size)
    (hfull : ∀ b ∈ batches.dropLast, b.length = size)
    (hbatch : ∀ b ∈ batches, 1 ≤ b.length ∧ b.length ≤ size) :
    batches.length = batches.flatten.length ⌈/⌉ size := by
  rcases List.eq_nil_or_concat batches with rfl | ⟨front, last, rfl⟩
  · simp
  rw [List.concat_eq_append] at hfull hbatch ⊢
  rw [List.dropLast_concat] at hfull
  obtain ⟨hpos, hle⟩ := hbatch last (by simp)
  have hfront : front.flatten.length = front.length * size := by
    rw [List.length_flatten, List.map_eq_replicate_iff.mpr hfull, List.sum_replicate_nat]
  rw [Nat.ceilDiv_eq_add_pred_div, List.flatten_append, List.flatten_singleton, List.length_append,
    List.length_append, List.length_singleton, hfront]
  have hsum : front.length * size + last.length + size - 1 =
      (last.length - 1) + (front.length + 1) * size := by
    rw [Nat.add_one_mul]
    omega
  rw [hsum, Nat.add_mul_div_right _ _ hsize, Nat.div_eq_of_lt (by omega), Nat.zero_add]

/-! ## What a receiver gets -/

theorem feed_cons {receive : Receiver σ} {b : Batch} {s s' : σ}
    (h : receive b.lines s = (.ok (), s')) (ending : Ending) (bs : List Batch) (received : Nat) :
    feed receive ending (b :: bs) received s = feed receive ending bs b.stop s' := by
  rw [feed, h]

/-- A receiver that accepts batches gets all of them. -/
theorem feed_accepts {receive : Receiver σ} (ending : Ending) {bs : List Batch} {s s' : σ}
    (h : Accepts receive (bs.map Batch.lines) s s') (received : Nat) :
    feed receive ending bs received s =
      { state := s', taken := ending.taken, received := reached received bs,
        failure := ending.error.map .undecodable } := by
  induction bs generalizing received s with
  | nil =>
    cases h
    rfl
  | cons b bs ih =>
    cases h with
    | cons hb hbs => rw [feed_cons hb, ih hbs, reached_cons]

/-- A receiver that fails at a batch gets none behind it. -/
theorem feed_fails {receive : Receiver σ} (ending : Ending) {before : List Batch} {s s₁ s₂ : σ}
    (h : Accepts receive (before.map Batch.lines) s s₁) {b : Batch} {f : Fault}
    (hb : receive b.lines s₁ = (.error f, s₂)) (after : List Batch) (received : Nat) :
    feed receive ending (before ++ b :: after) received s =
      { state := s₂, taken := b.stop, received := reached received before,
        failure := some (.receiver f) } := by
  induction before generalizing received s with
  | nil =>
    cases h
    rw [List.nil_append, feed, hb]
    rfl
  | cons c cs ih =>
    cases h with
    | cons hc hcs => rw [List.cons_append, feed_cons hc, ih hcs, reached_cons]

/-- A line as it is given: a text, or bytes that are decoded by the names of an encoding and a
treatment. -/
def decoded (encoding treatment : Text) : Text ⊕ Bytes → Except Encoding.Error Text
  | .inl t => .ok t
  | .inr bytes => Encoding.decode encoding treatment bytes

theorem run_eq_feed {size : Int} (hsize : 1 ≤ size) (receive : Receiver σ)
    (lines : List (Except Encoding.Error Text)) (s : σ) :
    run rules size receive 0 (numbered lines) s =
      feed receive (plan rules size.toNat (numbered lines) [] 0).2
        (textPlan rules size.toNat lines [] 0) 0 s := by
  rw [run, if_neg (Int.not_lt.mpr hsize), loop_eq_feed]
  rfl

/-- With a receiver that accepts all batches, all lines are taken. -/
theorem run_accepts {size : Int} (hsize : 1 ≤ size) {receive : Receiver σ} {s s' : σ}
    (h : Accepts receive ((textPlan rules size.toNat (texts.map .ok) [] 0).map Batch.lines) s s') :
    ∃ received, run rules size receive 0 (numbered (texts.map .ok)) s =
      { state := s', taken := texts.length, received, failure := none } := by
  have hend := (plan_of_texts rules size.toNat (numbered_texts (texts.map .ok)) [] 0).1
  rw [numbered_last, List.length_map] at hend
  rw [run_eq_feed hsize, feed_accepts _ h, hend]
  exact ⟨_, rfl⟩

/-- With a receiver that fails at a full batch, no line is taken behind the first one at which the
batch is full, and none of those lines has a say in what happens. -/
theorem run_fails_full {size : Int} (hsize : 1 ≤ size) {before : List Batch} {b : Batch} {n : Nat}
    (hfull : IsFull rules size.toNat texts [] 0 before b n) {receive : Receiver σ} {s s₁ s₂ : σ}
    {f : Fault} (h : Accepts receive (before.map Batch.lines) s s₁)
    (hb : receive b.lines s₁ = (.error f, s₂)) (rest : List (Except Encoding.Error Text)) :
    run rules size receive 0 (numbered ((texts.take n).map .ok ++ rest)) s =
      { state := s₂, taken := n, received := reached 0 before, failure := some (.receiver f) } := by
  obtain ⟨after, hplan⟩ := hfull.anyRest rest
  rw [run_eq_feed hsize, hplan, feed_fails _ h hb, hfull.stop, Nat.zero_add]

/-- With a receiver that fails at the rest, all lines have been taken. -/
theorem run_fails_rest {size : Int} (hsize : 1 ≤ size) {before after : List Batch} {b : Batch}
    (hplan : textPlan rules size.toNat (texts.map .ok) [] 0 = before ++ b :: after)
    (hrest : IsRest size.toNat texts 0 after b) {receive : Receiver σ} {s s₁ s₂ : σ} {f : Fault}
    (h : Accepts receive (before.map Batch.lines) s s₁)
    (hb : receive b.lines s₁ = (.error f, s₂)) :
    run rules size receive 0 (numbered (texts.map .ok)) s =
      { state := s₂, taken := texts.length, received := reached 0 before,
        failure := some (.receiver f) } := by
  rw [run_eq_feed hsize, hplan, feed_fails _ h hb, hrest.stop, Nat.zero_add]

/-- With a receiver that fails at one of the batches, the work ends there.  Where that batch is
full, the lines that are taken are the fewest that fill it; otherwise all of them are taken. -/
theorem run_fails {size : Int} (hsize : 1 ≤ size) {k : Nat} {batch : List Text}
    {receive : Receiver σ} {s s₁ s₂ : σ} {f : Fault}
    (hk : ((textPlan rules size.toNat (texts.map .ok) [] 0).map Batch.lines)[k]? = some batch)
    (h : Accepts receive (((textPlan rules size.toNat (texts.map .ok) [] 0).map Batch.lines).take k)
      s s₁)
    (hfail : receive batch s₁ = (.error f, s₂)) :
    let o := run rules size receive 0 (numbered (texts.map .ok)) s
    o.state = s₂ ∧ o.failure = some (.receiver f) ∧
      (batch.length = size.toNat →
        IsLeast {n | (k + 1) * size.toNat ≤ (unknownTexts rules (texts.take n)).length} o.taken ∧
        ∀ rest, run rules size receive 0 (numbered ((texts.take o.taken).map .ok ++ rest)) s = o) ∧
      (batch.length ≠ size.toNat → o.taken = texts.length) := by
  have hpos : 0 < size.toNat := by omega
  -- the plan, told apart at the batch
  rw [List.getElem?_map] at hk
  obtain ⟨b, hb, rfl⟩ := Option.map_eq_some_iff.mp hk
  obtain ⟨hlt, hget⟩ := List.getElem?_eq_some_iff.mp hb
  have hplan := (List.take_append_drop k (textPlan rules size.toNat (texts.map .ok) [] 0)).symm
  rw [List.drop_eq_getElem_cons hlt, hget] at hplan
  rw [← List.map_take] at h
  have hbefore : ((textPlan rules size.toNat (texts.map .ok) [] 0).take k).length = k :=
    List.length_take_of_le hlt.le
  rcases textPlan_split rules texts [] 0 hpos _ _ _ hplan with ⟨n, hn⟩ | hrest
  · have hwhole := run_fails_full hsize hn h hfail ((texts.drop n).map .ok)
    rw [← List.map_append, List.take_append_drop] at hwhole
    rw [hwhole]
    refine ⟨rfl, rfl, fun _ => ⟨⟨?_, fun m hm => ?_⟩, ?_⟩, ?_⟩
    · have hcount := hn.count
      rw [hbefore, List.length_nil, Nat.zero_add, Nat.mul_comm] at hcount
      exact hcount
    · by_contra hfew
      have hleast := hn.least m (Nat.lt_of_not_le hfew)
      rw [hbefore, List.length_nil, Nat.zero_add, Nat.mul_comm] at hleast
      exact Nat.not_le_of_lt hleast hm
    · exact run_fails_full hsize hn h hfail
    · intro hne
      exact absurd hn.length hne
  · rw [run_fails_rest hsize hplan hrest h hfail]
    refine ⟨rfl, rfl, fun heq => ?_, fun _ => rfl⟩
    exact absurd heq hrest.length.ne

/-- How a fault of the receiver is told: as it is if it was declared, and with what happened as its
cause otherwise. -/
theorem fault_told (f : Fault) :
    (Failure.receiver f).kind = .handler ∧
      ((∃ m, f = .declared m ∧ (Failure.receiver f).message = m ∧ f.cause? = none) ∨
        ∃ kind m, f = .suffered kind m ∧
          (Failure.receiver f).message = Text.ofString "handler failed: " ++ m ∧
          f.cause? = some kind) := by
  refine ⟨rfl, ?_⟩
  cases f with
  | declared m => exact Or.inl ⟨m, rfl, rfl, rfl⟩
  | suffered kind m => exact Or.inr ⟨kind, m, rfl, rfl, rfl⟩

/-- **Batches, with and without a receiver that fails.**  The lines are texts or can be decoded.
There are batches that together are the unknown lines, all of them full but the last one, which may
be short.  If a receiver accepts them all, every line is taken.  If it fails at one of them after
those before, the work ends there with its fault.  Where that batch is full, just as many lines are
taken as are needed to fill it, and any others could stand behind them; otherwise all of them are
taken. -/
theorem run_batches (rules : List RuleSet) {size : Int} (hsize : 1 ≤ size)
    {encoding treatment : Text} {lines : List (Text ⊕ Bytes)} {texts : List Text}
    (htexts : lines.map (decoded encoding treatment) = texts.map .ok) :
    ∃ batches : List (List Text),
      batches.flatten = unknownTexts rules texts ∧
      batches.length = (unknownTexts rules texts).length ⌈/⌉ size.toNat ∧
      (∀ b ∈ batches.dropLast, b.length = size.toNat) ∧
      (∀ b ∈ batches, 1 ≤ b.length ∧ b.length ≤ size.toNat) ∧
      ∀ (σ : Type) (receive : Receiver σ) (s : σ),
        let o := run rules size receive 0 (numbered (lines.map (decoded encoding treatment))) s
        (∀ s', Accepts receive batches s s' →
          o.state = s' ∧ o.taken = lines.length ∧ o.failure = none) ∧
        ∀ k batch s₁ s₂ f, batches[k]? = some batch → Accepts receive (batches.take k) s s₁ →
          receive batch s₁ = (.error f, s₂) →
          o.state = s₂ ∧ o.failure = some (.receiver f) ∧
          (Failure.receiver f).kind = .handler ∧
          ((∃ m, f = .declared m ∧ (Failure.receiver f).message = m ∧ f.cause? = none) ∨
            ∃ kind m, f = .suffered kind m ∧
              (Failure.receiver f).message = Text.ofString "handler failed: " ++ m ∧
              f.cause? = some kind) ∧
          (batch.length = size.toNat →
            IsLeast {n | (k + 1) * size.toNat ≤ (unknownTexts rules (texts.take n)).length}
              o.taken ∧
            ∀ rest, run rules size receive 0
              (numbered ((lines.take o.taken).map (decoded encoding treatment) ++ rest)) s = o) ∧
          (batch.length ≠ size.toNat → o.taken = lines.length) := by
  have hpos : 0 < size.toNat := by omega
  have hlength : texts.length = lines.length := by
    simpa using (congrArg List.length htexts).symm
  obtain ⟨hfull, hbatch⟩ := textPlan_sizes rules texts hpos
  have hlines : ((textPlan rules size.toNat (texts.map .ok) [] 0).map Batch.lines).flatten =
      unknownTexts rules texts :=
    (plan_of_texts rules size.toNat (numbered_texts (texts.map .ok)) [] 0).2
  have hsizes : ∀ b ∈ ((textPlan rules size.toNat (texts.map .ok) [] 0).map Batch.lines).dropLast,
      b.length = size.toNat := by
    rw [← List.map_dropLast]
    exact List.forall_mem_map.mpr hfull
  have hbatches : ∀ b ∈ (textPlan rules size.toNat (texts.map .ok) [] 0).map Batch.lines,
      1 ≤ b.length ∧ b.length ≤ size.toNat := List.forall_mem_map.mpr hbatch
  refine ⟨(textPlan rules size.toNat (texts.map .ok) [] 0).map Batch.lines, hlines, ?_, hsizes,
    hbatches, fun σ receive s => ?_⟩
  · rw [length_of_sizes hpos hsizes hbatches, hlines]
  rw [htexts]
  refine ⟨fun s' haccepts => ?_, fun k batch s₁ s₂ f hk haccepts hfail => ?_⟩
  · obtain ⟨received, hrun⟩ := run_accepts hsize haccepts
    rw [hrun]
    exact ⟨rfl, hlength, rfl⟩
  · obtain ⟨hstate, hfailure, hfull, hrest⟩ := run_fails hsize hk haccepts hfail
    refine ⟨hstate, hfailure, (fault_told f).1, (fault_told f).2, fun heq => ?_, fun hne => ?_⟩
    · obtain ⟨hleast, hany⟩ := hfull heq
      refine ⟨hleast, fun rest => ?_⟩
      rw [List.map_take, htexts, ← List.map_take]
      exact hany rest
    · exact (hrest hne).trans hlength

/-- Three unknown lines in batches of two, with a blank line among them. -/
theorem run_batches_two :
    let lines : List (Text ⊕ Bytes) :=
      [.inl (.ofString "a\n"), .inl (.ofString " "), .inr [0x62, 0x0A], .inl (.ofString "c")]
    let numberedLines := numbered (lines.map (decoded "utf-8" "strict"))
    let accept : Receiver Unit := fun _ s => (.ok (), s)
    let refuse : Receiver Unit := fun _ s => (.error (.suffered .foreign (.ofString "full")), s)
    let o := run [] 2 refuse 0 numberedLines ()
    (run [] 2 accept 0 numberedLines ()).taken = 4 ∧ o.taken = 3 ∧
      o.failure = some (.receiver (.suffered .foreign (.ofString "full"))) := by
  intro lines numberedLines accept refuse o
  have htexts : lines.map (decoded "utf-8" "strict") =
      [Text.ofString "a\n", .ofString " ", .ofString "b\n", .ofString "c"].map .ok := by
    decide +kernel
  have hsize : (1 : Int) ≤ 2 := by decide
  obtain ⟨batches, -, hlength, hfull, -, hrun⟩ := run_batches [] hsize htexts
  have htwo : batches.length = 2 := by
    rw [hlength]
    decide +kernel
  obtain ⟨first, second, rfl⟩ := List.length_eq_two.mp htwo
  have hfirst : first.length = 2 := hfull first (by simp)
  refine ⟨?_, ?_⟩
  · have haccepts : Accepts accept [first, second] () () := .cons rfl (.cons rfl (.nil ()))
    exact ((hrun Unit accept ()).1 () haccepts).2.1
  · obtain ⟨-, hfailure, -, -, htaken, -⟩ :=
      (hrun Unit refuse ()).2 0 first () () _ rfl (.nil ()) rfl
    refine ⟨?_, hfailure⟩
    apply (htaken hfirst).1.unique
    constructor
    · decide +kernel
    · intro n hn
      by_contra hlt
      have hfew : ∀ n < 3, ¬ (0 + 1) * 2 ≤ (unknownTexts [] (List.take n
          [.ofString "a\n", .ofString " ", .ofString "b\n", .ofString "c"])).length := by
        decide +kernel
      exact hfew n (Nat.lt_of_not_le hlt) hn

end LineSift.Scan
