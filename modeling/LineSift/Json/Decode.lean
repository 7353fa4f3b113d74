import LineSift.Json.Basic
import LineSift.Kind
import LineSift.Text.Lines
import LineSift.Text.Space

/-!
# Reading JSON

A text is read as one value with white space around it.  The reader stops at the first place where
the text cannot be continued to a value, and says what was expected there.  Texts that name the
infinite numbers or the one that is not a number are accepted too.  A control character cannot
stand in a string.

Arrays and objects can be nested to any depth.  An interpreter whose reader calls itself for each
of them gives up at a limit of its stack; this limit is not part of the format, and not modelled.
-/

namespace LineSift.Json

open Text (onto)

/-- What is wrong at a place in a text. -/
inductive Problem where
  | noValue
  | noName
  | noColon
  | noComma
  | extraData
  | controlCharacter
  | badEscape
  | badUnicodeEscape
  | unterminatedString
  | byteOrderMark
  deriving DecidableEq

open Text (ofString) in
/-- The wording of each problem. -/
def Problem.message : Problem → Text
  | .noValue => "Expecting value"
  | .noName => "Expecting property name enclosed in double quotes"
  | .noColon => "Expecting ':' delimiter"
  | .noComma => "Expecting ',' delimiter"
  | .extraData => "Extra data"
  | .controlCharacter => "Invalid control character at"
  | .badEscape => "Invalid \\escape"
  | .badUnicodeEscape => "Invalid \\uXXXX escape"
  | .unterminatedString => "Unterminated string starting at"
  | .byteOrderMark => "Unexpected UTF-8 BOM (decode using utf-8-sig)"

/-- Why a reader stops; `rest` is the text from the place of the problem on. -/
inductive Stop where
  | problem (p : Problem) (rest : Text)
  /-- A numeral has more digits than are read. -/
  | hugeNumeral (digits : Nat)

/-- What was read, and the rest of the text. -/
abbrev Read (α : Type) := Except Stop (α × Text)

/-- The text from the next token on; only white space can stand before it. -/
def skip (t : Text) : Text := t.dropWhile CodePoint.isLayout

/-- A part of a string: a code point, or a 16-bit unit that is spelled by its number. -/
inductive Part where
  | plain (c : CodePoint)
  | unit (n : Nat)

/-- The text of the parts of a string; two spelled units that are neighbours can be one code
point. -/
def joinParts : List Part → Text
  | [] => []
  | .plain c :: ps => c :: joinParts ps
  | .unit h :: .unit l :: ps =>
    if 0xD800 ≤ h ∧ h < 0xDC00 ∧ 0xDC00 ≤ l ∧ l < 0xE000 then
      CodePoint.ofNat (0x10000 + (h - 0xD800) * 0x400 + (l - 0xDC00)) :: joinParts ps
    else CodePoint.ofNat h :: joinParts (.unit l :: ps)
  | .unit n :: ps => CodePoint.ofNat n :: joinParts ps

/-- What a backslash and one code point stand for. -/
def escaped? (c : CodePoint) : Option CodePoint :=
  if c = .char '"' ∨ c = .char '\\' ∨ c = .char '/' then some c
  else if c = .char 'b' then some '\x08'
  else if c = .char 'f' then some '\x0C'
  else if c = .char 'n' then some '\n'
  else if c = .char 'r' then some '\r'
  else if c = .char 't' then some '\t'
  else none

/-- Reads the parts of a string up to the quote that ends it; `start` is the text from the quote
that begins it. -/
def parts (start : Text) : Text → Read (List Part)
  | [] => .error (.problem .unterminatedString start)
  | [c] =>
    if c = .char '"' then .ok ([], [])
    else if c.toNat < 0x20 then .error (.problem .controlCharacter [c])
    else .error (.problem .unterminatedString start)
  | .char '\\' :: .char 'u' :: a :: b :: c :: d :: e :: t =>
    if [a, b, c, d].all CodePoint.isHexDigit then
      onto (.unit (Text.digitsValue 16 [a, b, c, d])) (parts start (e :: t))
    else .error (.problem .badUnicodeEscape (.char 'u' :: a :: b :: c :: d :: e :: t))
  | c :: d :: t =>
    if c = .char '"' then .ok ([], d :: t)
    else if c = .char '\\' then
      match escaped? d with
      | some v => onto (.plain v) (parts start t)
      | none =>
        .error (if d = .char 'u' then .problem .badUnicodeEscape (d :: t)
          else .problem .badEscape (c :: d :: t))
    else if c.toNat < 0x20 then .error (.problem .controlCharacter (c :: d :: t))
    else onto (.plain c) (parts start (d :: t))

/-- Reads a string behind its first quote. -/
def readString (t : Text) : Read Text :=
  (parts (.char '"' :: t) t).map fun (ps, rest) => (joinParts ps, rest)

/-- Reads the digits of a fraction, with the point before them. -/
def fraction : Text → Text × Text
  | .char '.' :: t =>
    match t.takeWhile CodePoint.isAsciiDigit with
    | [] => ([], .char '.' :: t)
    | ds => (ds, t.dropWhile CodePoint.isAsciiDigit)
  | t => ([], t)

/-- Reads the digits of an exponent behind its sign. -/
def exponentDigits (negative : Bool) (t : Text) : Option (Int × Text) :=
  match t.takeWhile CodePoint.isAsciiDigit with
  | [] => none
  | ds =>
    let n : Int := Text.digitsValue 10 ds
    some (if negative then -n else n, t.dropWhile CodePoint.isAsciiDigit)

/-- Reads an exponent, with the letter before it. -/
def exponent? : Text → Option (Int × Text)
  | c :: t =>
    if c = .char 'e' ∨ c = .char 'E' then
      match t with
      | .char '-' :: u => exponentDigits true u
      | .char '+' :: u => exponentDigits false u
      | u => exponentDigits false u
    else none
  | [] => none

/-- The digits before the point: a zero alone, or digits that do not begin with a zero. -/
def wholePart : Text → Text × Text
  | [] => ([], [])
  | c :: t =>
    if c = .char '0' then ([c], t)
    else ((c :: t).takeWhile CodePoint.isAsciiDigit, (c :: t).dropWhile CodePoint.isAsciiDigit)

/-- The greatest number of digits of an integer. -/
def maxDigits : Nat := 4300

/-- Reads a number behind its sign; `start` is the text from the sign on. -/
def unsigned (negative : Bool) (start t : Text) : Read Json :=
  match wholePart t with
  | ([], _) => .error (.problem .noValue start)
  | (whole, rest) =>
    let (places, rest) := fraction rest
    let digits := whole ++ places
    let d := Text.digitsValue 10 digits
    match exponent? rest with
    | some (e, rest) =>
      .ok (.float (Double.ofDecimal negative d digits.length (e - places.length)), rest)
    | none =>
      if places ≠ [] then
        .ok (.float (Double.ofDecimal negative d digits.length (-(places.length : Int))), rest)
      else if maxDigits < whole.length then .error (.hugeNumeral whole.length)
      else .ok (.int (if negative then -(d : Int) else d), rest)

/-- Words that are values. -/
def words : List (Text × Json) :=
  [("null", .null), ("true", .bool true), ("false", .bool false),
    ("NaN", .float .notANumber), ("Infinity", .float (.infinite false)),
    ("-Infinity", .float (.infinite true))]

/-- Reads a word or a number. -/
def scalar (t : Text) : Read Json :=
  match words.find? fun (word, _) => word.isPrefixOf t with
  | some (word, v) => .ok (v, t.drop word.length)
  | none =>
    match t with
    | .char '-' :: u => unsigned true t u
    | u => unsigned false t u

mutual

/-- Reads a value; `n` bounds how far the readers call each other. -/
def value : Nat → Text → Read Json
  | 0, t => .error (.problem .noValue t)
  | n + 1, t =>
    match t with
    | .char '"' :: t => (readString t).map fun (s, rest) => (.string s, rest)
    | .char '[' :: t =>
      match skip t with
      | .char ']' :: rest => .ok (.array [], rest)
      | t => (items n t).map fun (vs, rest) => (.array vs, rest)
    | .char '\x7b' :: t =>
      match skip t with
      | .char '\x7d' :: rest => .ok (.object [], rest)
      | t => (members n [] t).map fun (ms, rest) => (.object ms, rest)
    | t => scalar t

/-- Reads the items of an array, and the bracket that closes it. -/
def items : Nat → Text → Except Stop (List Json × Text)
  | 0, t => .error (.problem .noValue t)
  | n + 1, t => do
    let (v, t) ← value n t
    match skip t with
    | .char ']' :: rest => return ([v], rest)
    | .char ',' :: t =>
      let (vs, rest) ← items n (skip t)
      return (v :: vs, rest)
    | t => throw (.problem .noComma t)

/-- Reads the members of an object, and the brace that closes it. -/
def members : Nat → Assoc Json → Text → Except Stop (Assoc Json × Text)
  | 0, _, t => .error (.problem .noValue t)
  | n + 1, before, t =>
    match t with
    | .char '"' :: t => do
      let (name, t) ← readString t
      match skip t with
      | .char ':' :: t =>
        let (v, t) ← value n (skip t)
        let before := before.put name v
        match skip t with
        | .char '\x7d' :: rest => return (before, rest)
        | .char ',' :: t => members n before (skip t)
        | t => throw (.problem .noComma t)
      | t => throw (.problem .noColon t)
    | t => throw (.problem .noName t)

end

/-- Why a text is not JSON. -/
inductive Error where
  /-- A problem at a place, which is counted from zero, and as line and column from one. -/
  | malformed (problem : Problem) (line column pos : Nat)
  /-- A numeral has more digits than are read. -/
  | hugeNumeral (digits : Nat)
  deriving DecidableEq

open Text (ofString) in
/-- The wording of an error. -/
def Error.message : Error → Text
  | .malformed problem line column pos =>
    problem.message ++ ofString ": line " ++ Text.decimal line ++ ofString " column " ++
      Text.decimal column ++ ofString " (char " ++ Text.decimal pos ++ ofString ")"
  | .hugeNumeral digits =>
    ofString "Exceeds the limit (4300 digits) for integer string conversion: value has " ++
      Text.decimal digits ++
      ofString " digits; use sys.set_int_max_str_digits() to increase the limit"

/-- The kind of each cause. -/
def Error.kind : Error → Kind
  | .malformed .. => .json
  | .hugeNumeral _ => .badValue

/-- The error for a reader of `t` that stopped. -/
def errorIn (t : Text) : Stop → Error
  | .problem p rest =>
    let pos := t.length - rest.length
    .malformed p (t.lineAt pos) (t.columnAt pos) pos
  | .hugeNumeral digits => .hugeNumeral digits

/-- Reads one value and the white space around it. -/
def document (t : Text) : Except Stop Json :=
  if t.head? = some (.char '\uFEFF') then .error (.problem .byteOrderMark t)
  else do
    let (v, rest) ← value (2 * t.length + 2) (skip t)
    match skip rest with
    | [] => return v
    | rest => throw (.problem .extraData rest)

/-- Reads a text as JSON. -/
def decode (t : Text) : Except Error Json := (document t).mapError (errorIn t)

end LineSift.Json
