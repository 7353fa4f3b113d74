import LineSift.Config.Basic
import LineSift.Text.Lines

/-!
# Reading configurations

A section begins with its name in brackets.  An option is a name, a colon or an equals sign, and a
value.  Lines that are indented more than the option go on with its value, and so do empty lines.
Lines that begin with a number sign or a semicolon do not count.

Some faults end reading at once.  Lines that are neither sections nor options are collected, and are
told at the end.  A file is read in blocks: bytes that are no text are noticed when their block is
read, after the lines that were complete before it.
-/

namespace LineSift.Config

/-- A configuration that is being read; values are still lists of lines. -/
structure Draft where
  sections : Assoc (Assoc (List Text)) := []
  defaults : Assoc (List Text) := []
  /-- The section that options belong to. -/
  current : Option Text := none
  /-- The option that indented lines go on with; none if the name is empty. -/
  name : Text := []
  /-- The indentation of the last section or option. -/
  indent : Nat := 0
  /-- Lines that are neither sections nor options. -/
  badLines : List (Nat × Text) := []

namespace Draft

/-- The options of a section. -/
def own (d : Draft) (sec : Text) : Assoc (List Text) :=
  if sec = defaultSection then d.defaults else (d.sections.get? sec).getD []

/-- The draft with other options in a section. -/
def setOwn (d : Draft) (sec : Text) (options : Assoc (List Text)) : Draft :=
  if sec = defaultSection then { d with defaults := options }
  else { d with sections := d.sections.put sec options }

/-- Adds a line to the value that is being read, if there is one. -/
def extend (d : Draft) (line : Text) : Draft :=
  match d.current with
  | none => d
  | some sec =>
    if d.name = [] then d
    else
      let options := d.own sec
      match options.get? d.name with
      | none => d
      | some lines => d.setOwn sec (options.put d.name (lines ++ [line]))

end Draft

/-- The name of a section: what stands between the first bracket and the last one. -/
def sectionName? : Text → Option Text
  | .char '[' :: t =>
    match (t.reverse.dropWhile (· != .char ']')).drop 1 with
    | [] => none
    | name => some name.reverse
  | _ => none

/-- A sign between the name and the value of an option. -/
def isDelimiter (c : CodePoint) : Bool := c == .char '=' || c == .char ':'

/-- The name and the value of an option. -/
def nameAndValue? (t : Text) : Option (Text × Text) :=
  let name := t.takeWhile fun c => !isDelimiter c
  match t.drop name.length with
  | [] => none
  | _ :: value => some (Text.stripRight name, Text.strip value)

/-- Begins a section. -/
def beginSection (file : Text) (number : Nat) (d : Draft) (sec : Text) : Except Error Draft :=
  if d.sections.has sec then .error (.repeatedSection sec file number)
  else if sec = defaultSection then .ok { d with current := some sec, name := [] }
  else .ok { d with sections := d.sections.put sec [], current := some sec, name := [] }

/-- Reads a line that begins a section or an option; `line` is the line as it stands. -/
def readItem (file : Text) (number : Nat) (line : Text) (d : Draft) : Except Error Draft :=
  match sectionName? line.strip with
  | some sec => beginSection file number d sec
  | none =>
    match d.current with
    | none => .error (.noHeader file number line)
    | some sec =>
      let bad := { d with badLines := d.badLines ++ [(number, line)] }
      match nameAndValue? line.strip with
      | none => .ok bad
      | some (name, value) =>
        let d := if name = [] then bad else d
        let name := Text.lower name
        let options := d.own sec
        if options.has name then .error (.repeatedOption name sec file number)
        else .ok ({ d with name }.setOwn sec (options.put name [value]))

/-- Whether a line without white space around it is a comment. -/
def isComment (line : Text) : Bool :=
  line.head? = some (.char '#') || line.head? = some (.char ';')

/-- Reads a line. -/
def readLine (file : Text) (number : Nat) (line : Text) (d : Draft) : Except Error Draft :=
  let value := line.strip
  if isComment value then .ok d
  else if value = [] then .ok (d.extend [])
  else
    let indent := (line.takeWhile CodePoint.isSpace).length
    if d.current.isSome ∧ d.name ≠ [] ∧ d.indent < indent then .ok (d.extend value)
    else readItem file number line { d with indent }

/-- Reads lines, the first of which has the given number. -/
def readLines (file : Text) : Nat → List Text → Draft → Except Error Draft
  | _, [], d => .ok d
  | number, line :: lines, d =>
    (readLine file number line d).bind (readLines file (number + 1) lines)

/-- The value of an option: its lines, without white space at the end. -/
def joinValue (lines : List Text) : Text := (Text.join [.char '\n'] lines).stripRight

/-- The configuration of a draft. -/
def Draft.finish (d : Draft) : Config where
  sections := d.sections.map fun (sec, options) =>
    (sec, options.map fun (name, lines) => (name, joinValue lines))
  defaults := d.defaults.map fun (name, lines) => (name, joinValue lines)

/-- The lines that can be read before the bytes turn out not to be text, and the error if they
do. -/
structure Source where
  lines : List Text
  failure : Option Encoding.Error := none

/-- The size of the blocks in which a file is read. -/
def blockSize : Nat := 8192

/-- Lines that are complete.  A carriage return at the end does not complete one, since a line feed
may follow it. -/
def completeLines (t : Text) : List Text :=
  let t : Text := if t.getLast? = some (.char '\r') then t.dropLast else t
  t.unifyLineEnds.linesWithEnds.filter fun line => line.getLast? = some (.char '\n')

/-- The pieces of a block, and the bytes at its end that wait for the next block: a sequence that
has begun, or the first two bytes of a surrogate. -/
def blockPieces (bytes : Bytes) : List Encoding.Piece × Bytes :=
  let (ps, s) := Encoding.utf8From {} bytes
  match s.bytes, ps.reverse with
  | [], .bad [b] _ :: .bad [0xED] _ :: before =>
    if 0xA0 ≤ b ∧ b ≤ 0xBF then (before.reverse, [0xED, b]) else (ps, [])
  | waiting, _ => (ps, waiting)

/-- Reads blocks of bytes after the text `before` and the bytes that wait; `n` bounds the number of
blocks. -/
def readBlocks : Nat → Text → Bytes → Bytes → Source
  | 0, before, _, _ => ⟨before.unifyLineEnds.linesWithEnds, none⟩
  | n + 1, before, waiting, bytes =>
    let stop (e : Encoding.Error) : Source := ⟨completeLines before, some e⟩
    match bytes with
    | [] =>
      match Encoding.decodeStrict waiting with
      | .error e => stop e
      | .ok _ => ⟨before.unifyLineEnds.linesWithEnds, none⟩
    | _ =>
      let (ps, waiting) := blockPieces (waiting ++ bytes.take blockSize)
      match Encoding.treat .utf8 (.ok .refuse) 0 ps with
      | .error e => stop e
      | .ok t => readBlocks n (before ++ t) waiting (bytes.drop blockSize)

/-- The lines of a file. -/
def Source.ofBytes (bytes : Bytes) : Source := readBlocks (bytes.length / blockSize + 2) [] [] bytes

/-- Reads a configuration. -/
def parse (file : Text) (bytes : Bytes) : Except Error Config := do
  let source := Source.ofBytes bytes
  let d ← readLines file 1 source.lines {}
  match source.failure with
  | some e => throw (.undecodable e)
  | none =>
    if d.badLines ≠ [] then throw (.badLines file d.badLines)
    return d.finish

end LineSift.Config
