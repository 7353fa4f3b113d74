import LineSift.Value.Unquote

/-!
# Lists of values

A list is written in brackets with commas between its elements.  An element that begins with a
quote runs to the matching quote if a comma or the end of the list follows; every other element
runs to the next comma.  White space around elements does not count.
-/

namespace LineSift.Value

/-- Splits behind the next quote `q`; a backslash protects the code point after it. -/
def cutAtQuote (q : CodePoint) : Text → Option (Text × Text)
  | [] => none
  | [c] => if c = q then some ([c], []) else none
  | c :: d :: t =>
    if c = q then some ([c], d :: t)
    else if c = .char '\\' then (cutAtQuote q t).map fun (a, b) => (c :: d :: a, b)
    else (cutAtQuote q (d :: t)).map fun (a, b) => (c :: a, b)

/-- Splits behind the next backtick. -/
def cutAtBacktick : Text → Option (Text × Text)
  | [] => none
  | c :: t =>
    if c = .char '`' then some ([c], t)
    else (cutAtBacktick t).map fun (a, b) => (c :: a, b)

/-- What stands behind an element: nothing more, or the elements after a comma. -/
inductive AfterElement where
  | last
  | more (rest : Text)

/-- Reads the comma or the end behind an element. -/
def afterElement? (t : Text) : Option AfterElement :=
  match t.stripLeft with
  | [] => some .last
  | c :: rest => if c = .char ',' then some (.more rest) else none

/-- Reads an element in quotes, with what stands behind it. -/
def quotedElement? (t : Text) : Option (Text × AfterElement) :=
  match t with
  | [] => none
  | q :: body =>
    let cut :=
      if q = .char '"' ∨ q = .char '\'' then cutAtQuote q body
      else if q = .char '`' then cutAtBacktick body
      else none
    cut.bind fun (inner, rest) => (afterElement? rest).map fun after => (q :: inner, after)

/-- Reads an element up to the next comma. -/
def plainElement (t : Text) : Text × AfterElement :=
  let element := Text.stripRight (t.takeWhile (· != .char ','))
  match t.dropWhile (· != .char ',') with
  | [] => (element, .last)
  | _ :: rest => (element, .more rest)

/-- Reads the first element of a list, with what stands behind it. -/
def firstElement (t : Text) : Text × AfterElement :=
  let u := t.stripLeft
  (quotedElement? u).getD (plainElement u)

theorem length_cutAtQuote {q : CodePoint} {t a b : Text} (h : cutAtQuote q t = some (a, b)) :
    a.length + b.length = t.length := by
  fun_induction cutAtQuote q t generalizing a b with
  | case1 => simp at h
  | case2 =>
    simp at h
    obtain ⟨rfl, rfl⟩ := h
    rfl
  | case3 => simp at h
  | case4 d t =>
    simp at h
    obtain ⟨rfl, rfl⟩ := h
    simp; omega
  | case5 d t _ ih =>
    obtain ⟨⟨x, y⟩, hxy, hab⟩ := Option.map_eq_some_iff.1 h
    have := ih hxy
    simp at hab
    obtain ⟨rfl, rfl⟩ := hab
    simp; omega
  | case6 c d t _ _ ih =>
    obtain ⟨⟨x, y⟩, hxy, hab⟩ := Option.map_eq_some_iff.1 h
    have := ih hxy
    simp at hab
    obtain ⟨rfl, rfl⟩ := hab
    simp at this ⊢; omega

theorem length_cutAtBacktick {t a b : Text} (h : cutAtBacktick t = some (a, b)) :
    a.length + b.length = t.length := by
  induction t generalizing a b with
  | nil => simp [cutAtBacktick] at h
  | cons c t ih =>
    simp only [cutAtBacktick] at h
    split at h
    · simp at h
      obtain ⟨rfl, rfl⟩ := h
      simp; omega
    · obtain ⟨⟨x, y⟩, hxy, hab⟩ := Option.map_eq_some_iff.1 h
      have := ih hxy
      simp at hab
      obtain ⟨rfl, rfl⟩ := hab
      simp; omega

theorem length_stripLeft_le (t : Text) : t.stripLeft.length ≤ t.length :=
  (List.dropWhile_sublist _).length_le

theorem afterElement?_more {t rest : Text} (h : afterElement? t = some (.more rest)) :
    rest.length < t.length := by
  have hle := length_stripLeft_le t
  simp only [afterElement?] at h
  split at h
  · simp at h
  · next c r hr =>
    split at h
    · simp at h
      subst h
      rw [hr] at hle
      simp at hle
      omega
    · simp at h

/-- What follows an element is shorter than what was read, so reading a list comes to an end. -/
theorem firstElement_more {t e rest : Text} (h : firstElement t = (e, .more rest)) :
    rest.length < t.length := by
  have hle := length_stripLeft_le t
  simp only [firstElement] at h
  cases hq : quotedElement? t.stripLeft with
  | some r =>
    simp [hq] at h
    subst h
    unfold quotedElement? at hq
    split at hq
    · simp at hq
    · next q body hb =>
      rw [hb] at hle
      obtain ⟨⟨inner, after⟩, hcut, hafter⟩ := Option.bind_eq_some_iff.1 hq
      obtain ⟨a, ha, hab⟩ := Option.map_eq_some_iff.1 hafter
      simp at hab
      obtain ⟨_, rfl⟩ := hab
      have hlt := afterElement?_more ha
      have hlen : inner.length + after.length = body.length := by
        split at hcut
        · exact length_cutAtQuote hcut
        · split at hcut
          · exact length_cutAtBacktick hcut
          · simp at hcut
      simp at hle
      omega
  | none =>
    simp [hq, plainElement] at h
    have hd := (List.dropWhile_sublist (l := t.stripLeft) (· != CodePoint.char ',')).length_le
    split at h
    · simp at h
    · next hr =>
      simp at h
      rw [hr] at hd
      obtain ⟨_, rfl⟩ := h
      simp at hd
      omega

/-- The elements of the text between the brackets of a list, still quoted. -/
def elements (t : Text) : List Text :=
  match _h : firstElement t with
  | (e, .last) => [e]
  | (e, .more rest) => e :: elements rest
termination_by t.length
decreasing_by exact firstElement_more _h

/-- The values of a list. -/
def unquoteList (written : Text) : Except Error (List Text) :=
  let s := written.strip
  if s.length < 2 then .error (.shortList s)
  else if s.head? ≠ some (.char '[') ∨ s.getLast? ≠ some (.char ']') then .error (.notList s)
  else
    let body := s.tail.dropLast
    if Text.strip body = [] then .ok []
    else (elements body).mapM fun e => if e = [] then .error (.emptyElement s) else unquote e

end LineSift.Value
