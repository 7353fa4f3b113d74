import LineSift.Assoc
import LineSift.Text.Lines
import LineSift.Text.Number
import LineSift.Text.Space

/-!
# The header of a rules file

A header is a sequence of options, written `name = value`, and fields, written
`field name` with options in braces.  A value is a quoted string or a list of quoted strings, and
it is kept as it is written.  Spaces, line breaks and comments, from a number sign to the end of
the line, can stand between any two tokens.  Reading stops at the first item that is not
well-formed.
-/

namespace LineSift.Header

open Text (onto)

/-- An option or a field, with values as they are written. -/
inductive Item where
  | option (key value : Text)
  | field (name : Text) (attributes : List (Text × Text))
  deriving DecidableEq

/-- A step in reading: what was read, and the rest. -/
abbrev Read (α : Type) := Text → Option (α × Text)

/-- Skips white space and comments. -/
def skipFrom : Bool → Text → Text
  | _, [] => []
  | true, c :: t => skipFrom (c != .char '\n') t
  | false, c :: t =>
    if c.isLayout then skipFrom false t
    else if c = .char '#' then skipFrom true t
    else c :: t

/-- The text from the next token on; white space can stand before it, and comments. -/
def skip (t : Text) : Text := skipFrom false t

/-- A code point of a name. -/
def isNamePart (c : CodePoint) : Bool :=
  c.isAsciiAlnum || c == .char '-' || c == .char '_'

/-- Reads a name. -/
def name : Read Text := fun t =>
  let u := skip t
  match u.takeWhile isNamePart with
  | [] => none
  | n => some (n, u.dropWhile isNamePart)

/-- Reads a single code point. -/
def symbol (c : CodePoint) : Read Unit := fun t =>
  match skip t with
  | [] => none
  | d :: rest => if d = c then some ((), rest) else none

/-- Reads up to the double quote that ends a string; a backslash protects what follows. -/
def doubleRest : Read Text
  | [] => none
  | [c] => if c = .char '"' then some ([c], []) else none
  | c :: d :: t =>
    if c = .char '"' then some ([c], d :: t)
    else if c = .char '\\' then
      if d = .char '\n' then none else onto c (onto d (doubleRest t))
    else if c = .char '\n' ∨ c = .char '\r' then none
    else onto c (doubleRest (d :: t))

/-- Reads up to the single quote that ends a string.  A quote behind a backslash ends it only if no
other quote on the line does. -/
def singleRest : Read Text
  | [] => none
  | [c] => if c = .char '\'' then some ([c], []) else none
  | c :: d :: t =>
    if c = .char '\'' then some ([c], d :: t)
    else if c = .char '\\' ∧ d = .char '\'' then
      match onto c (onto d (singleRest t)) with
      | some r => some r
      | none => some ([c, d], t)
    else if c = .char '\n' ∨ c = .char '\r' then none
    else onto c (singleRest (d :: t))

/-- Reads up to the next backtick. -/
def rawRest : Read Text
  | [] => none
  | c :: t => if c = .char '`' then some ([c], t) else onto c (rawRest t)

/-- Reads a quoted string. -/
def string : Read Text := fun t =>
  match skip t with
  | [] => none
  | c :: rest =>
    if c = .char '"' then onto c (doubleRest rest)
    else if c = .char '\'' then onto c (singleRest rest)
    else if c = .char '`' then onto c (rawRest rest)
    else none

/-- Skips further elements of a list, each with the comma before it; `n` bounds their number. -/
def furtherStrings : Nat → Text → Text
  | 0, t => t
  | n + 1, t =>
    match (symbol ',' t).bind fun ((), u) => string u with
    | some (_, rest) => furtherStrings n rest
    | none => t

/-- Reads a list of quoted strings.  What is read is the text between the brackets and the brackets
themselves, comments included. -/
def list : Read Text := fun t =>
  let start := skip t
  (symbol '[' start).bind fun ((), body) =>
    let behind :=
      match string body with
      | some (_, rest) => furtherStrings rest.length rest
      | none => body
    (symbol ']' behind).map fun ((), rest) =>
      (start.take (start.length - rest.length), rest)

/-- Reads a value. -/
def value : Read Text := fun t =>
  match list t with
  | some r => some r
  | none => string t

/-- Reads an option. -/
def option : Read (Text × Text) := fun t => do
  let (key, t) ← name t
  let ((), t) ← symbol '=' t
  let (v, t) ← value t
  return ((key, v), t)

/-- Reads options as long as there are any; `n` bounds their number. -/
def options : Nat → Text → List (Text × Text) × Text
  | 0, t => ([], t)
  | n + 1, t =>
    match option t with
    | some (o, rest) =>
      let (os, rest) := options n rest
      (o :: os, rest)
    | none => ([], t)

/-- Whether two code points are the same letter; the letter i without a dot counts as an i. -/
def isLetter (c : CodePoint) (lower upper : Char) : Bool :=
  c == .char lower || c == .char upper || (lower == 'i' && c == .char 'ı')

/-- A code point that would continue the keyword. -/
def isKeywordPart (c : CodePoint) : Bool :=
  c.isAsciiAlnum || c == .char '_' || c == .char '$'

/-- Reads the keyword that a field begins with, in letters of either case. -/
def keyword : Read Unit := fun t =>
  match skip t with
  | f :: i :: e :: l :: d :: rest =>
    if isLetter f 'f' 'F' && isLetter i 'i' 'I' && isLetter e 'e' 'E' && isLetter l 'l' 'L' &&
        isLetter d 'd' 'D' && !(rest.head?.any isKeywordPart) then
      some ((), rest)
    else none
  | _ => none

/-- Reads a field. -/
def field : Read (Text × List (Text × Text)) := fun t => do
  let ((), t) ← keyword t
  let (n, t) ← name t
  let ((), t) ← symbol '\x7b' t
  let (attributes, t) := options t.length t
  let ((), t) ← symbol '\x7d' t
  return ((n, attributes), t)

/-- Reads a field or an option. -/
def item : Read Item := fun t =>
  match field t with
  | some ((n, attributes), rest) => some (.field n attributes, rest)
  | none => (option t).map fun ((key, v), rest) => (.option key v, rest)

/-- Reads items as long as there are any; `n` bounds their number. -/
def items : Nat → Text → List Item × Text
  | 0, t => ([], t)
  | n + 1, t =>
    match item t with
    | some (i, rest) =>
      let (is, rest) := items n rest
      (i :: is, rest)
    | none => ([], t)

/-- A place where a header is not well-formed. -/
structure Error where
  line : Nat
  column : Nat
  deriving DecidableEq

open Text (ofString) in
/-- The wording of an error. -/
def Error.message (e : Error) : Text :=
  ofString "syntax error at line " ++ Text.decimal e.line ++ ofString ", column " ++
    Text.decimal e.column ++ ofString ": Expected end of text"

/-- The items of a header. -/
def parse (header : Text) : Except Error (List Item) :=
  let t := header.expandTabs
  let (read, rest) := items t.length t
  match skip rest with
  | [] => .ok read
  | rest@(_ :: _) =>
    let i := t.length - rest.length
    .error ⟨t.lineAt i, t.columnAt i⟩

end LineSift.Header
