import LineSift.Proofs.Looking
import LineSift.Proofs.RuleSet.Failure

/-!
# Work that fails for known reasons only

Which failures some work can end in is told from its parts, together with a property of the states
that its parts begin in (`Effect.FailsOnly`).  What a step gave is known in the steps behind it.
-/

namespace LineSift

/-- What concerns rules is reported like other expected errors. -/
theorem Kind.reported_of_concernsRules {k : Kind} (h : k.concernsRules = true) :
    k.isReported = true := by
  rcases RuleSet.concernsRules_iff.mp h with rfl | rfl | rfl <;> rfl

namespace Effect

variable {ε σ α β : Type} {I : σ → Prop} {P Q : ε → Prop}

/-- From a state with a property work fails for certain reasons only, or it leaves such a state. -/
def FailsOnly (I : σ → Prop) (P : ε → Prop) (x : ExceptT ε (StateM σ) α) : Prop :=
  ∀ s r s', I s → x s = (r, s') →
    match r with
    | .ok _ => I s'
    | .error e => P e

theorem failsOnly_pure (a : α) : FailsOnly I P (pure a : ExceptT ε (StateM σ) α) := by
  intro s r s' hs h
  cases h
  exact hs

theorem failsOnly_throw {e : ε} (h : P e) : FailsOnly I P (throw e : ExceptT ε (StateM σ) α) := by
  intro s r s' hs he
  cases he
  exact h

/-- An error that has been met is one of those that were expected. -/
theorem FailsOnly.error {x : ExceptT ε (StateM σ) α} (h : FailsOnly I P x) {s s' : σ} {e : ε}
    (hs : I s) (he : x s = (.error e, s')) : P e :=
  h s _ s' hs he

theorem FailsOnly.ok {x : ExceptT ε (StateM σ) α} (h : FailsOnly I P x) {s s' : σ} {a : α}
    (hs : I s) (ha : x s = (.ok a, s')) : I s' :=
  h s _ s' hs ha

/-- More errors can be expected than there are. -/
theorem FailsOnly.mono {x : ExceptT ε (StateM σ) α} (h : FailsOnly I P x) (hPQ : ∀ e, P e → Q e) :
    FailsOnly I Q x := by
  intro s r s' hs hx
  cases r with
  | ok a => exact h.ok hs hx
  | error e => exact hPQ e (h.error hs hx)

/-- Two steps one after the other; the second one need only be known for what the first
one gives. -/
theorem FailsOnly.bind {x : ExceptT ε (StateM σ) α} {f : α → ExceptT ε (StateM σ) β}
    (hx : FailsOnly I P x) (hf : ∀ a, (∃ s s', I s ∧ x s = (.ok a, s')) → FailsOnly I P (f a)) :
    FailsOnly I P (x >>= f) := by
  intro s r s'' hs h
  rcases bind_cases h with ⟨e, hfails, rfl⟩ | ⟨a, s', hok, hrest⟩
  · exact hx.error hs hfails
  · exact hf a ⟨s, s', hs, hok⟩ s' r s'' (hx.ok hs hok) hrest

/-- What is done with what it sees may rely on the invariant. -/
theorem FailsOnly.get_bind {f : σ → ExceptT ε (StateM σ) α}
    (h : ∀ s, I s → FailsOnly I P (f s)) : FailsOnly I P (get >>= f) :=
  fun s r s' hs hget => h s hs s r s' hs hget

/-- What may be refused before it goes on. -/
theorem FailsOnly.unless {c : Prop} [Decidable c] {refusal : ExceptT ε (StateM σ) PUnit}
    {rest : PUnit → ExceptT ε (StateM σ) α} (h : FailsOnly I P refusal)
    (hrest : ∀ u, FailsOnly I P (rest u)) :
    FailsOnly I P (if c then refusal >>= rest else rest ⟨⟩) := by
  split
  · exact h.bind fun u _ => hrest u
  · exact hrest _

end Effect

open Effect

namespace Work

variable {ε δ α : Type} {I : World → Prop} {P : ε → Prop}

/-- A message fails never, and keeps the invariant where messages do. -/
theorem failsOnly_say {level : Level} {message : Text}
    (hkept : ∀ w, I w → I (w.tell ⟨level, message⟩)) :
    FailsOnly I P (say level message : Work ε Unit) := by
  intro w r w' hw h
  cases h
  exact hkept w hw

theorem failsOnly_ofStore {f : Store.Error → ε} {look : Store → Except Store.Error α}
    (h : ∀ e, P (f e)) : FailsOnly I P (ofStore f look) := by
  intro w r w' hw heq
  obtain ⟨rfl, rfl⟩ := Prod.mk.inj heq
  cases look w.store with
  | ok a => exact hw
  | error e => exact h e

theorem failsOnly_ofExcept {f : δ → ε} {x : Except δ α} (h : ∀ e, x = .error e → P (f e)) :
    FailsOnly I P (ofExcept f x) := by
  intro w r w' hw heq
  obtain ⟨rfl, rfl⟩ := Prod.mk.inj heq
  cases x with
  | ok a => exact hw
  | error e => exact h e rfl

/-- Work that leaves messages only, and fails for known reasons. -/
theorem failsOnly_ofLogged {work : Logged ε α} (h : work.FailsAs P) (w₀ : World) :
    FailsOnly w₀.Noted P (ofLogged work) := by
  intro w r w' hw heq
  change ((work []).1, (work []).2.foldl World.tell w) = (r, w') at heq
  rcases hwork : work [] with ⟨e | a, log⟩
  · rw [hwork] at heq
    cases heq
    exact h _ _ e hwork
  · rw [hwork] at heq
    cases heq
    exact hw.trans (.foldl_tell _ w)

/-- The same errors in other words. -/
theorem failsOnly_mapError {f : δ → ε} {work : Work δ α}
    (h : FailsOnly I (fun e => P (f e)) work) : FailsOnly I P (work.mapError f) := by
  intro w r w' hw heq
  obtain ⟨rfl, rfl⟩ := Prod.mk.inj heq
  cases hwork : (work w).1 with
  | ok a => exact h.ok hw (Prod.ext hwork rfl)
  | error e => exact h.error hw (Prod.ext hwork rfl)

end Work

end LineSift
