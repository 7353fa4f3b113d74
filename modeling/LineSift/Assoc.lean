import LineSift.Text.Basic

/-!
# Tables in order of insertion

A table is a list of named values.  A name that is set again keeps its first place and gets the
new value.
-/

namespace LineSift

/-- Named values in order of their first insertion. -/
abbrev Assoc (α : Type) := List (Text × α)

namespace Assoc

variable {α : Type}

/-- Gives a name a value. -/
def put (key : Text) (value : α) : Assoc α → Assoc α
  | [] => [(key, value)]
  | (k, v) :: rest => if k = key then (k, value) :: rest else (k, v) :: put key value rest

/-- The value of a name. -/
def get? (key : Text) : Assoc α → Option α
  | [] => none
  | (k, v) :: rest => if k = key then some v else get? key rest

/-- Whether a name has a value. -/
def has (key : Text) (table : Assoc α) : Bool := (get? key table).isSome

/-- The names, in order. -/
def keys (table : Assoc α) : List Text := table.map (·.1)

/-- The table of a list of assignments. -/
def ofList (pairs : List (Text × α)) : Assoc α :=
  pairs.foldl (fun table (k, v) => put k v table) []

theorem get?_put (key k : Text) (v : α) (table : Assoc α) :
    get? k (put key v table) = if key = k then some v else get? k table := by
  induction table with
  | nil => simp [put, get?]
  | cons p rest ih =>
    obtain ⟨k', v'⟩ := p
    by_cases h : k' = key
    · by_cases hk : key = k <;> simp_all [put, get?]
    · by_cases hk : key = k
      · subst hk
        simp [put, get?, h, ih]
      · simp [put, get?, h, ih, hk]

end Assoc

end LineSift
