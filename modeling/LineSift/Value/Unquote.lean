import LineSift.Text.Replace
import LineSift.Value.Error

/-!
# Unquoting values

A value in a rules file or in the configuration is written in one of four ways.  In double quotes
a backslash begins an escape; in single quotes only `\'` is one; between backticks everything
stands for itself; and a value without quotes stands for itself as a whole, provided it has two
code points or more.
-/

namespace LineSift.Value

/-- A unit in the body of a double-quoted value: a code point for itself, or what follows a
backslash, as far as it belongs to the escape. -/
inductive BodyUnit where
  | plain (c : CodePoint)
  | escape (esc : Text)
  deriving DecidableEq

/-- Whether a text begins with `n` code points that satisfy `p`. -/
def beginsWith (p : CodePoint → Bool) (n : Nat) (t : Text) : Bool :=
  n ≤ t.length && (t.take n).all p

/-- The text that belongs to an escape, taken from what follows the backslash: `x`, `u` and `U` with
two, four and eight hexadecimal digits, three octal digits, or a single code point. -/
def escapeText (t : Text) : Text :=
  match t with
  | [] => []
  | c :: r =>
    if c = .char 'x' ∧ beginsWith CodePoint.isHexDigit 2 r then c :: r.take 2
    else if c = .char 'u' ∧ beginsWith CodePoint.isHexDigit 4 r then c :: r.take 4
    else if c = .char 'U' ∧ beginsWith CodePoint.isHexDigit 8 r then c :: r.take 8
    else if beginsWith CodePoint.isOctDigit 3 t then t.take 3
    else [c]

/-- The units of a double-quoted body, from left to right. -/
def bodyUnits (t : Text) : List BodyUnit :=
  match t with
  | [] => []
  | c :: r =>
    if c = .char '\\' then
      .escape (escapeText r) :: bodyUnits (r.drop (escapeText r).length)
    else
      .plain c :: bodyUnits r
termination_by t.length
decreasing_by
  · simp only [List.length_drop, List.length_cons]; omega
  · simp only [List.length_cons]; omega

/-- The code point for which a letter after a backslash stands. -/
def simpleEscape? : CodePoint → Option CodePoint
  | .char 'a' => some (.char '\x07')
  | .char 'b' => some (.char '\x08')
  | .char 'f' => some (.char '\x0c')
  | .char 'n' => some (.char '\n')
  | .char 'r' => some (.char '\r')
  | .char 't' => some (.char '\t')
  | .char 'v' => some (.char '\x0b')
  | .char '\\' => some (.char '\\')
  | .char '"' => some (.char '"')
  | _ => none

/-- The code point that a hexadecimal numeral names. -/
def hexCodePoint (digits : Text) : Except Error CodePoint :=
  let n := Text.digitsValue 16 digits
  match CodePoint.ofNat? n with
  | some c => .ok c
  | none => .error (if n < 0x80000000 then .noCodePoint else .hugeCodePoint)

/-- The code point for which a unit of the value `s` stands. -/
def BodyUnit.value (s : Text) : BodyUnit → Except Error CodePoint
  | .plain c => .ok c
  | .escape [c] =>
    match simpleEscape? c with
    | some d => .ok d
    | none => .error (.badEscape [c] s)
  | .escape esc =>
    match esc with
    | [] => .error (.badEscape [] s)
    | c :: digits =>
      if c.isOctDigit then
        let n := Text.digitsValue 8 esc
        if n ≤ 0o377 then .ok (CodePoint.ofNat n) else .error (.octalRange s)
      else hexCodePoint digits

/-- The value of a text that begins with a double quote. -/
def unquoteDouble (s : Text) : Except Error Text :=
  if s.length < 2 ∨ s.getLast? ≠ some (.char '"') then
    .error (.malformed s)
  else
    let body := s.tail.dropLast
    let units := bodyUnits body
    if .char '\n' ∈ body ∨ .char '\r' ∈ body then .error (.lineBreak s)
    else if .plain (.char '"') ∈ units then .error (.bareQuote s)
    else units.mapM (BodyUnit.value s)

/-- The value of a text that may be quoted. -/
def unquote (s : Text) : Except Error Text :=
  match s with
  | [] => .ok []
  | [_] => .error (.malformed s)
  | head :: rest =>
    if head = .char '"' then unquoteDouble s
    else if head = .char '\'' then
      if rest.getLast? = some (.char '\'') then
        .ok (Text.replaceAll rest.dropLast [.char '\\', .char '\''] [.char '\''])
      else .error (.malformed s)
    else if head = .char '`' then
      if rest.getLast? = some (.char '`') ∧ .char '`' ∉ rest.dropLast then .ok rest.dropLast
      else .error (.malformed s)
    else .ok s

end LineSift.Value
