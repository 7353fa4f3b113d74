import LineSift.World

/-!
# Work with a state that can fail

Changes of a store, work on a world, printing and commands are all of one kind: they take a state to
a result or a failure and the state that they leave.  Here is what their combinations do to a state.
-/

namespace LineSift.Effect

variable {ε σ α β : Type}

/-- One step after the other: the second one is done if the first one succeeds. -/
theorem bind_apply (x : ExceptT ε (StateM σ) α) (f : α → ExceptT ε (StateM σ) β) (s : σ) :
    (x >>= f) s =
      match x s with
      | (.ok a, s') => f a s'
      | (.error e, s') => (.error e, s') := by
  simp only [bind, ExceptT.bind, ExceptT.mk, StateT.bind, ExceptT.bindCont]
  rcases x s with ⟨_ | _, _⟩ <;> rfl

/-- Behind a step that succeeds the rest is done with its result. -/
theorem bind_ok {x : ExceptT ε (StateM σ) α} {f : α → ExceptT ε (StateM σ) β} {s s' : σ} {a : α}
    (h : x s = (.ok a, s')) : (x >>= f) s = f a s' := by
  rw [bind_apply, h]

/-- A step that fails decides. -/
theorem bind_error {x : ExceptT ε (StateM σ) α} {f : α → ExceptT ε (StateM σ) β} {s s' : σ} {e : ε}
    (h : x s = (.error e, s')) : (x >>= f) s = (.error e, s') := by
  rw [bind_apply, h]

/-- What succeeds as a whole succeeds in both parts. -/
theorem of_bind_ok {x : ExceptT ε (StateM σ) α} {f : α → ExceptT ε (StateM σ) β} {s s'' : σ} {b : β}
    (h : (x >>= f) s = (.ok b, s'')) : ∃ a s', x s = (.ok a, s') ∧ f a s' = (.ok b, s'') := by
  rw [bind_apply] at h
  split at h
  · next a s' hx => exact ⟨a, s', hx, h⟩
  · cases h

/-- What is done in two parts ends in the first one with a failure, or in the second one. -/
theorem bind_cases {x : ExceptT ε (StateM σ) α} {f : α → ExceptT ε (StateM σ) β} {s s'' : σ}
    {r : Except ε β} (h : (x >>= f) s = (r, s'')) :
    (∃ e, x s = (.error e, s'') ∧ r = .error e) ∨
      ∃ a s', x s = (.ok a, s') ∧ f a s' = (r, s'') := by
  rw [bind_apply] at h
  split at h
  · next a s' hx => exact Or.inr ⟨a, s', hx, h⟩
  · next e s' hx =>
    cases h
    exact Or.inl ⟨e, hx, rfl⟩

theorem get_bind (f : σ → ExceptT ε (StateM σ) α) (s : σ) : (get >>= f) s = f s s := rfl

theorem modify_bind (g : σ → σ) (f : PUnit → ExceptT ε (StateM σ) α) (s : σ) :
    (modify g >>= f) s = f ⟨⟩ (g s) := rfl

/-- A step that cannot fail is followed by the rest. -/
theorem lift_bind (x : StateM σ β) (f : β → ExceptT ε (StateM σ) α) (s : σ) :
    ((liftM x : ExceptT ε (StateM σ) β) >>= f) s = f (x s).1 (x s).2 := rfl

/-- What is done about an error begins with what the failed step has left. -/
theorem tryCatch_apply (x : ExceptT ε (StateM σ) α) (f : ε → ExceptT ε (StateM σ) α) (s : σ) :
    (tryCatch x f) s =
      match x s with
      | (.ok a, s') => (.ok a, s')
      | (.error e, s') => f e s' := by
  simp only [tryCatch, tryCatchThe, MonadExceptOf.tryCatch, ExceptT.tryCatch, ExceptT.mk, bind,
    StateT.bind]
  rcases x s with ⟨_ | _, _⟩ <;> rfl

/-- Other words for errors change nothing about success. -/
theorem mapError_eq_ok {δ : Type} {x : Except ε α} {f : ε → δ} {a : α} :
    x.mapError f = .ok a ↔ x = .ok a := by
  cases x with
  | ok b => constructor <;> (intro h; cases h; rfl)
  | error e => constructor <;> (intro h; cases h)

theorem mapError_eq_error {δ : Type} {x : Except ε α} {f : ε → δ} {d : δ}
    (h : x.mapError f = .error d) : ∃ e, x = .error e ∧ f e = d := by
  cases x with
  | ok a => cases h
  | error e =>
    cases h
    exact ⟨e, rfl, rfl⟩

theorem map_eq_error {f : α → β} {x : Except ε α} {e : ε} (h : x.map f = .error e) :
    x = .error e := by
  cases x with
  | ok a => cases h
  | error d =>
    cases h
    rfl

/-- A sequence of two steps fails with the first one or with the second one. -/
theorem bind_eq_error {x : Except ε α} {f : α → Except ε β} {e : ε} (h : x.bind f = .error e) :
    x = .error e ∨ ∃ a, x = .ok a ∧ f a = .error e := by
  cases x with
  | ok a => exact Or.inr ⟨a, rfl, h⟩
  | error d =>
    cases h
    exact Or.inl rfl

/-! ## What all steps have in common -/

/-- Whatever the result, the state that is left is related to the state at first. -/
def Within (R : σ → σ → Prop) (x : ExceptT ε (StateM σ) α) : Prop := ∀ s, R s (x s).2

section Within

variable {R : σ → σ → Prop}

theorem within_pure (hrefl : ∀ s, R s s) (a : α) :
    Within R (pure a : ExceptT ε (StateM σ) α) := hrefl

theorem within_throw (hrefl : ∀ s, R s s) (e : ε) :
    Within R (throw e : ExceptT ε (StateM σ) α) := hrefl

theorem within_get (hrefl : ∀ s, R s s) : Within R (get : ExceptT ε (StateM σ) σ) := hrefl

/-- Two steps that each stay within a relation do so together, if it is transitive; so does a step
that fails, because it counts from what it has left. -/
theorem Within.bind (htrans : ∀ {a b c}, R a b → R b c → R a c) {x : ExceptT ε (StateM σ) α}
    {f : α → ExceptT ε (StateM σ) β} (hx : Within R x) (hf : ∀ a, Within R (f a)) :
    Within R (x >>= f) := by
  intro s
  have hs := hx s
  rw [bind_apply]
  split
  · next a s' heq =>
    rw [heq] at hs
    exact htrans hs (hf a s')
  · next heq =>
    rw [heq] at hs
    exact hs

/-- What may be refused before it goes on. -/
theorem Within.unless (htrans : ∀ {a b c}, R a b → R b c → R a c) {c : Prop} [Decidable c]
    {refusal : ExceptT ε (StateM σ) PUnit} {rest : PUnit → ExceptT ε (StateM σ) α}
    (h : Within R refusal) (hrest : ∀ u, Within R (rest u)) :
    Within R (if c then refusal >>= rest else rest ⟨⟩) := by
  split
  · exact Within.bind (R := R) htrans h hrest
  · exact hrest _

/-- What is done about an error stays within the relation too. -/
theorem Within.tryCatch (htrans : ∀ {a b c}, R a b → R b c → R a c)
    {x : ExceptT ε (StateM σ) α} {f : ε → ExceptT ε (StateM σ) α} (hx : Within R x)
    (hf : ∀ e, Within R (f e)) : Within R (tryCatch x f) := by
  intro s
  have hs := hx s
  rw [tryCatch_apply]
  split
  · next heq =>
    rw [heq] at hs
    exact hs
  · next e s' heq =>
    rw [heq] at hs
    exact htrans hs (hf e s')

end Within

/-! ## Going the same way -/

/-- From related states two pieces of work come to the same result, and to related states: always,
or at least where the first one succeeds. -/
def Mirrors (R : σ → σ → Prop) (always : Prop) (x x' : ExceptT ε (StateM σ) α) : Prop :=
  ∀ s s', R s s' → (always ∨ ∃ a, (x s).1 = .ok a) → (x' s').1 = (x s).1 ∧ R (x s).2 (x' s').2

section Mirrors

variable {R : σ → σ → Prop} {always : Prop}

theorem mirrors_pure (a : α) :
    Mirrors R always (pure a : ExceptT ε (StateM σ) α) (pure a) := fun _ _ h _ => ⟨rfl, h⟩

theorem mirrors_throw (e : ε) :
    Mirrors R always (throw e : ExceptT ε (StateM σ) α) (throw e) := fun _ _ h _ => ⟨rfl, h⟩

/-- Two steps are mirrored one after the other; for the second one it is known that the first one
has come to its result somewhere. -/
theorem Mirrors.bind {x x' : ExceptT ε (StateM σ) α} {f f' : α → ExceptT ε (StateM σ) β}
    (hx : Mirrors R always x x')
    (hf : ∀ a, (∃ s s', R s s' ∧ (x s).1 = .ok a) → Mirrors R always (f a) (f' a)) :
    Mirrors R always (x >>= f) (x' >>= f') := by
  intro s s' hR hwhen
  have hfirst : always ∨ ∃ a, (x s).1 = .ok a := by
    apply hwhen.imp_right
    rintro ⟨b, hb⟩
    have hwhole : (x >>= f) s = (.ok b, ((x >>= f) s).2) := Prod.ext hb rfl
    obtain ⟨a, t, hxs, -⟩ := of_bind_ok hwhole
    exact ⟨a, by rw [hxs]⟩
  obtain ⟨hsame, hrest⟩ := hx s s' hR hfirst
  rw [bind_apply] at hwhen
  rw [bind_apply, bind_apply]
  rcases hxs : x s with ⟨e | a, t⟩ <;> rcases hxs' : x' s' with ⟨r, t'⟩
  · rw [hxs, hxs'] at hsame hrest
    cases hsame
    exact ⟨rfl, hrest⟩
  · rw [hxs, hxs'] at hsame hrest
    rw [hxs] at hwhen
    cases hsame
    exact hf a ⟨s, s', hR, by rw [hxs]⟩ t t' hrest hwhen

theorem Mirrors.get_bind {f f' : σ → ExceptT ε (StateM σ) α}
    (h : ∀ s s', R s s' → Mirrors R always (f s) (f' s')) :
    Mirrors R always (get >>= f) (get >>= f') := fun s s' hR hwhen => h s s' hR s s' hR hwhen

/-- What may be refused before it goes on, for the same reason. -/
theorem Mirrors.unless {c : Prop} [Decidable c] {refusal refusal' : ExceptT ε (StateM σ) PUnit}
    {rest rest' : PUnit → ExceptT ε (StateM σ) α} (h : Mirrors R always refusal refusal')
    (hrest : ∀ u, Mirrors R always (rest u) (rest' u)) :
    Mirrors R always (if c then refusal >>= rest else rest ⟨⟩)
      (if c then refusal' >>= rest' else rest' ⟨⟩) := by
  split
  · exact h.bind fun u _ => hrest u
  · exact hrest _

end Mirrors

end LineSift.Effect
