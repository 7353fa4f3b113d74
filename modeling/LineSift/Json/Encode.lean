import LineSift.Json.Basic

/-!
# Writing JSON

Values are written on one line, in ASCII, with a space after each comma and each colon.  A code
point beyond ASCII is spelled by its 16-bit units.
-/

namespace LineSift.Json

open Text (ofString)

/-- A 16-bit unit spelled by its number. -/
def encodeUnit (n : Nat) : Text := ofString "\\u" ++ Text.hex 4 n

/-- A code point within a string. -/
def encodeCodePoint (c : CodePoint) : Text :=
  if c = .char '"' ∨ c = .char '\\' then [.char '\\', c]
  else if c = .char '\n' then ofString "\\n"
  else if c = .char '\r' then ofString "\\r"
  else if c = .char '\t' then ofString "\\t"
  else if c = .char '\x08' then ofString "\\b"
  else if c = .char '\x0C' then ofString "\\f"
  else
    let n := c.toNat
    if 0x20 ≤ n ∧ n < 0x7F then [c]
    else if n < 0x10000 then encodeUnit n
    else
      let n := n - 0x10000
      encodeUnit (0xD800 + n / 0x400) ++ encodeUnit (0xDC00 + n % 0x400)

/-- A text in quotes. -/
def encodeString (t : Text) : Text :=
  ofString "\"" ++ t.flatMap encodeCodePoint ++ ofString "\""

/-- A floating-point number. -/
def encodeDouble : Double → Text
  | .notANumber => "NaN"
  | .infinite negative => ofString (if negative then "-Infinity" else "Infinity")
  | x => x.text

mutual

/-- The text of a value. -/
def encode : Json → Text
  | .null => "null"
  | .bool b => ofString (if b then "true" else "false")
  | .int n => Text.decimalInt n
  | .float x => encodeDouble x
  | .string t => encodeString t
  | .array items => ofString "[" ++ encodeItems items ++ ofString "]"
  | .object members => ofString "\x7b" ++ encodeMembers members ++ ofString "\x7d"

/-- The text of values with commas between them. -/
def encodeItems : List Json → Text
  | [] => []
  | [v] => encode v
  | v :: vs => encode v ++ ofString ", " ++ encodeItems vs

/-- The text of named values with commas between them. -/
def encodeMembers : List (Text × Json) → Text
  | [] => []
  | [(name, v)] => encodeString name ++ ofString ": " ++ encode v
  | (name, v) :: rest =>
    encodeString name ++ ofString ": " ++ encode v ++ ofString ", " ++ encodeMembers rest

end

end LineSift.Json
