import LineSift.Encoding.Decode
import LineSift.Proofs.Effect

/-!
# Why bytes are not decoded

Bytes are not decoded if their encoding is not known, if there is something to treat and no
treatment for it, or if they stand for no text (`decode_error`).
-/

namespace LineSift.Encoding

open Effect (mapError_eq_error map_eq_error)

variable {e : Error}

theorem treat_error {encoding : Encoding} {treatment : Except Error Treatment} {pos : Nat}
    {ps : List Piece} (h : treat encoding treatment pos ps = .error e) :
    treatment = .error e ∨ e.kind = .decoding := by
  fun_induction treat encoding treatment pos ps with
  | case1 => cases h
  | case2 _ _ _ _ ih => exact ih (map_eq_error h)
  | case3 _ _ _ _ _ htreatment =>
    cases h
    exact Or.inl htreatment
  | case4 =>
    obtain rfl := Except.error.inj h
    exact Or.inr rfl
  | case5 _ _ _ _ _ _ ih => exact ih (map_eq_error h)
  | case6 _ _ _ _ _ _ ih => exact ih h
  | case7 _ _ _ _ _ _ ih => exact ih (map_eq_error h)
  | case8 _ _ _ _ _ _ ih => exact ih (map_eq_error h)
  | case9 _ _ htreatment _ _ _ _ _ _ _ _ ih =>
    rw [htreatment] at ih
    exact htreatment ▸ ih (map_eq_error h)
  | case10 =>
    obtain rfl := Except.error.inj h
    exact Or.inr rfl
  | case11 =>
    obtain rfl := Except.error.inj h
    exact Or.inr rfl

theorem decodeStrict_error {bytes : Bytes} (h : decodeStrict bytes = .error e) :
    e.kind = .decoding := by
  rcases treat_error h with hrefuse | hkind
  · cases hrefuse
  · exact hkind

/-- An encoding, or a treatment of what stands for no text, is not known by its name. -/
inductive Misnamed (encoding treatment : Text) : Error → Prop
  | encoding : ofName? encoding = none → Misnamed encoding treatment (.unknownEncoding encoding)
  | treatment {cause : Treatment.Unusable} (lookedUp : Option Text) :
      Treatment.ofName treatment = .error cause →
      Misnamed encoding treatment (.untreated cause lookedUp)

/-- **Bytes that are not decoded** stand for no text, or a name is not known. -/
theorem decode_error {encoding treatment : Text} {bytes : Bytes}
    (h : decode encoding treatment bytes = .error e) :
    e.kind = .decoding ∨ Misnamed encoding treatment e := by
  unfold decode at h
  split at h
  · cases h
  split at h
  · next hnone =>
    cases h
    exact Or.inr (.encoding hnone)
  · rcases treat_error h with hname | hkind
    · obtain ⟨cause, hcause, rfl⟩ := mapError_eq_error hname
      exact Or.inr (.treatment _ hcause)
    · exact Or.inl hkind

end LineSift.Encoding
