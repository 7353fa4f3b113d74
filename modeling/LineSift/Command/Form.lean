import LineSift.Text.Quoted
import LineSift.Text.Replace

/-!
# Forms of commands

A form says which switches a command has and whether arguments without a switch are allowed.  From
it come the usage line and the help text, both of which fill lines of a given width.
-/

namespace LineSift.Command

open Text (ofString)

/-- A switch. -/
structure Switch (κ : Type) where
  /-- What the switch means. -/
  key : κ
  /-- Its names, with the dashes. -/
  names : List Text
  /-- What its value is called, if it takes one. -/
  value : Option Text := none
  help : Text

/-- The arguments without a switch. -/
inductive Operands where
  | none
  /-- One that must be given. -/
  | one (name help : Text)
  /-- Any number. -/
  | many (name help : Text)

/-- The form of a command. -/
structure Form (κ : Type) where
  description : Text
  switches : List (Switch κ) := []
  operands : Operands := .none

variable {κ : Type}

/-- A name of a switch with its value. -/
def Switch.withValue (s : Switch κ) (name : Text) : Text :=
  match s.value with
  | .none => name
  | some v => name ++ ofString " " ++ v

/-- All names of a switch, as they stand in the help text. -/
def Switch.invocation (s : Switch κ) : Text :=
  Text.join (ofString ", ") (s.names.map s.withValue)

/-- All names of a switch, as they stand in messages. -/
def Switch.label (s : Switch κ) : Text := Text.join (ofString "/") s.names

/-- A switch in the usage line. -/
def Switch.usage (s : Switch κ) : Text :=
  ofString "[" ++ s.withValue (s.names.headD []) ++ ofString "]"

/-- The other arguments in the usage line. -/
def Operands.usage : Operands → List Text
  | .none => []
  | .one name _ => [name]
  | .many name _ => [ofString "[" ++ name ++ ofString " ...]"]

/-- The width of lines. -/
def lineWidth : Nat := 78

/-- Fills lines with parts that a space divides; `first` is the room that is taken on the first
line, and `others` the room on the others. -/
def fillLines (first others : Nat) (parts : List Text) : List (List Text) :=
  let step (state : Nat × List (List Text)) (part : Text) : Nat × List (List Text) :=
    match state with
    | (_, []) => (first + part.length, [[part]])
    | (used, line :: lines) =>
      if lineWidth < used + 1 + part.length then (others + part.length, [part] :: line :: lines)
      else (used + 1 + part.length, (line ++ [part]) :: lines)
  (parts.foldl step (first, [])).2.reverse

/-- Lines of parts, with an indentation before all but the first. -/
def layLines (indent : Nat) (lines : List (List Text)) : Text :=
  Text.join (.char '\n' :: List.replicate indent (.char ' '))
    (lines.map (Text.join (ofString " ")))

/-- The usage line of a command, which can take more than one line of text. -/
def Form.usage (f : Form κ) (program : Text) : Text :=
  let lead := ofString "usage: "
  let switches := f.switches.map Switch.usage
  let operands := f.operands.usage
  let short := Text.join (ofString " ") (program :: switches ++ operands)
  if lead.length + short.length ≤ lineWidth then lead ++ short ++ ofString "\n"
  else
    let indent := lead.length + program.length + 1
    let lines :=
      if switches = [] then fillLines lead.length indent (program :: operands)
      else fillLines lead.length indent (program :: switches) ++ fillLines indent indent operands
    lead ++ layLines indent lines ++ ofString "\n"

/-- An entry of the help text: what it is about, and what it says. -/
structure Entry where
  head : Text
  body : Text

/-- The entries about the switches. -/
def Form.switchEntries (f : Form κ) : List Entry := f.switches.map fun s => ⟨s.invocation, s.help⟩

/-- The entries about the other arguments. -/
def Operands.entries : Operands → List Entry
  | .none => []
  | .one name help | .many name help => [⟨name, help⟩]

/-- The greatest column at which what an entry says can begin. -/
def maxColumn : Nat := 24

/-- An entry with what it says at a column. -/
def Entry.lay (e : Entry) (column : Nat) : Text :=
  let body := layLines column (fillLines column column (e.body.splitOn [.char ' ']))
  let head := ofString "  " ++ e.head
  head ++
    (if head.length + 2 ≤ column then List.replicate (column - head.length) (.char ' ')
      else .char '\n' :: List.replicate column (.char ' ')) ++
    body ++ ofString "\n"

/-- A part of the help text. -/
def laySection (title : String) (column : Nat) (entries : List Entry) : Text :=
  if entries = [] then []
  else ofString "\n" ++ ofString title ++ ofString ":\n" ++ entries.flatMap (·.lay column)

/-- The help text of a command. -/
def Form.help (f : Form κ) (program : Text) : Text :=
  let entries := f.operands.entries ++ f.switchEntries
  let column := min maxColumn ((entries.map fun e => e.head.length).foldl max 0 + 4)
  f.usage program ++ ofString "\n" ++ f.description ++ ofString "\n" ++
    laySection "positional arguments" column f.operands.entries ++
    laySection "options" column f.switchEntries

end LineSift.Command
