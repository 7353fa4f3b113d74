import LineSift.Command.Form
import LineSift.Text.Letter

/-!
# Arguments of commands

An argument that begins with a dash is a switch.  A long name can be cut short as long as it fits
one switch only, and its value can follow an equals sign.  Short switches without values can be put
together, and the value of a short one can follow its name at once.  After two dashes alone no
argument is a switch.  Negative numbers and arguments with spaces are no switches unless they fit
one.

The arguments without a switch must stand together: once they have been taken, further ones are not
known.
-/

namespace LineSift.Command

open Text (ofString)

variable {κ : Type}

/-- What is wrong with arguments. -/
inductive Problem where
  /-- A name that has been cut short fits several switches. -/
  | ambiguous (argument : Text) (names : List Text)
  /-- A switch has no value although it takes one. -/
  | noValue (label : Text)
  /-- A switch has a value although it takes none. -/
  | extraValue (label value : Text)
  /-- An argument that must be given is missing. -/
  | missing (name : Text)
  /-- Arguments are not known. -/
  | unknown (arguments : List Text)
  deriving DecidableEq

/-- The wording of each problem. -/
def Problem.message : Problem → Text
  | .ambiguous argument names =>
    ofString "ambiguous option: " ++ argument ++ ofString " could match " ++
      Text.join (ofString ", ") names
  | .noValue label => ofString "argument " ++ label ++ ofString ": expected one argument"
  | .extraValue label value =>
    ofString "argument " ++ label ++ ofString ": ignored explicit argument " ++ value.shown
  | .missing name => ofString "the following arguments are required: " ++ name
  | .unknown arguments =>
    ofString "unrecognized arguments: " ++ Text.join (ofString " ") arguments

/-- An argument that fits a switch, the name that it fits, and the value that it brings. -/
structure Fit (κ : Type) where
  switch : Switch κ
  name : Text
  value : Option Text

/-- What an argument is. -/
inductive Token (κ : Type) where
  /-- Two dashes alone. -/
  | dashes
  | operand (t : Text)
  | switch (argument : Text) (fit : Fit κ)
  /-- It looks like a switch, and fits none. -/
  | unknown (argument : Text)

/-- Two dashes. -/
def twoDashes : Text := "--"

/-- The text of an argument. -/
def Token.text : Token κ → Text
  | .dashes => twoDashes
  | .operand t | .unknown t | .switch t _ => t

/-- Whether an argument is, or looks like, a switch. -/
def Token.isSwitch : Token κ → Bool
  | .switch .. | .unknown _ => true
  | _ => false

/-- The names of all switches. -/
def Form.names (f : Form κ) : List (Text × Switch κ) :=
  f.switches.flatMap fun s => s.names.map (·, s)

/-- The switch with a given name. -/
def Form.find? (f : Form κ) (name : Text) : Option (Switch κ) :=
  (f.names.find? fun (n, _) => n = name).map (·.2)

/-- A text before its first equals sign, and what follows the sign. -/
def cutAtEquals (t : Text) : Text × Option Text :=
  let name := t.takeWhile (· != .char '=')
  match t.drop name.length with
  | [] => (name, none)
  | _ :: v => (name, some v)

/-- The switches that an argument fits by a name that has been cut short. -/
def Form.fits (f : Form κ) (argument : Text) : List (Fit κ) :=
  if twoDashes.isPrefixOf argument then
    let (name, v) := cutAtEquals argument
    f.names.filterMap fun (n, s) => if name.isPrefixOf n then some ⟨s, n, v⟩ else none
  else
    f.names.filterMap fun (n, s) =>
      if n = argument.take 2 then some ⟨s, n, some (argument.drop 2)⟩
      else if argument.isPrefixOf n then some ⟨s, n, none⟩
      else none

/-- Whether a text is a negative number; a line feed can follow the number. -/
def isNegativeNumber : Text → Bool
  | .char '-' :: t =>
    let t := if t.getLast? = some (.char '\n') then t.dropLast else t
    let whole := t.takeWhile CodePoint.isDecimal
    match t.drop whole.length with
    | [] => whole ≠ []
    | .char '.' :: places => places ≠ [] && places.all CodePoint.isDecimal
    | _ => false
  | _ => false

/-- What an argument is that does not stand behind two dashes. -/
def Form.token (f : Form κ) (argument : Text) : Except Problem (Token κ) :=
  if argument.head? ≠ some (.char '-') then .ok (.operand argument)
  else match f.find? argument with
  | some s => .ok (.switch argument ⟨s, argument, none⟩)
  | none =>
    if argument.length = 1 then .ok (.operand argument)
    else
      let (name, v) := cutAtEquals argument
      match v, f.find? name with
      | some v, some s => .ok (.switch argument ⟨s, name, some v⟩)
      | _, _ =>
        match f.fits argument with
        | [fit] => .ok (.switch argument fit)
        | [] =>
          if isNegativeNumber argument ∨ .char ' ' ∈ argument then .ok (.operand argument)
          else .ok (.unknown argument)
        | fits => .error (.ambiguous argument (fits.map (·.name)))

/-- What arguments are. -/
def Form.tokens (f : Form κ) : List Text → Except Problem (List (Token κ))
  | [] => .ok []
  | a :: as =>
    if a = twoDashes then .ok (.dashes :: as.map .operand)
    else do
      let t ← f.token a
      let ts ← f.tokens as
      return t :: ts

/-- A switch that is given, with its value. -/
abbrev Given (κ : Type) := κ × Option Text

/-- A switch that is given with a value; two dashes alone are no value. -/
def givenValue (s : Switch κ) (v : Text) : Given κ :=
  (s.key, if v = twoDashes then none else some v)

/-- The switches that stand together in one argument, when the last name brings a value. -/
def Form.together (f : Form κ) (s : Switch κ) (name : Text) :
    Text → Except Problem (List (Given κ) × Option (Switch κ))
  | [] =>
    if s.value.isSome then .ok ([givenValue s []], none) else .error (.extraValue s.label [])
  | c :: v =>
    if s.value.isSome then .ok ([givenValue s (c :: v)], none)
    else if twoDashes.isPrefixOf name then .error (.extraValue s.label (c :: v))
    else
      let name := [.char '-', c]
      match f.find? name with
      | none => .error (.extraValue s.label (c :: v))
      | some s' =>
        if v = [] then .ok ([(s.key, none)], some s')
        else (f.together s' name v).map fun (gs, last) => ((s.key, none) :: gs, last)

/-- What has been read of the arguments. -/
structure Reading (κ : Type) where
  given : List (Given κ) := []
  /-- The arguments without a switch, once they have been taken. -/
  operands : Option (List Text) := none
  unknown : List Text := []

/-- The switches of one argument, and the arguments behind it and its value. -/
def Form.switches? (f : Form κ) (fit : Fit κ) (rest : List (Token κ)) :
    Except Problem (List (Given κ) × List (Token κ)) := do
  let (before, last) ← match fit.value with
    | none => pure ([], some fit.switch)
    | some v => f.together fit.switch fit.name v
  match last with
  | none => return (before, rest)
  | some s =>
    if s.value.isNone then return (before ++ [(s.key, none)], rest)
    else match rest with
    | .operand v :: rest => return (before ++ [givenValue s v], rest)
    | _ => throw (.noValue s.label)

/-- The arguments at the beginning that are taken as those without a switch. -/
def Operands.take (o : Operands) (ts : List (Token κ)) : Option (List Text × List (Token κ)) :=
  match o with
  | .none => Option.none
  | .many _ _ =>
    let here := ts.takeWhile fun t => !t.isSwitch
    some ((here.map Token.text).erase twoDashes, ts.drop here.length)
  | .one _ _ =>
    match ts with
    | .dashes :: .operand t :: rest => some ([t], rest)
    | .operand t :: .dashes :: rest => some ([t], rest)
    | .operand t :: rest => some ([t], rest)
    | _ => Option.none

/-- Takes the arguments without a switch unless they have been taken. -/
def Form.takeOperands (f : Form κ) (r : Reading κ) (ts : List (Token κ)) :
    Reading κ × List (Token κ) :=
  match r.operands, f.operands.take ts with
  | none, some (operands, rest) => ({ r with operands := some operands }, rest)
  | _, _ => (r, ts)

/-- Reads arguments; `n` bounds their number.  A problem ends reading, and what was read before it
is kept. -/
def Form.read (f : Form κ) : Nat → Reading κ → List (Token κ) → Reading κ × Option Problem
  | 0, r, _ => (r, none)
  | n + 1, r, ts =>
    if ts.any Token.isSwitch then
      match ts with
      | .switch _ fit :: rest =>
        match f.switches? fit rest with
        | .error p => (r, some p)
        | .ok (given, rest) => f.read n { r with given := r.given ++ given } rest
      | .unknown a :: rest => f.read n { r with unknown := r.unknown ++ [a] } rest
      | ts =>
        if r.operands.isNone ∧ (f.operands.take ts).isSome then
          let (r, rest) := f.takeOperands r ts
          f.read n r rest
        else
          let strays := ts.takeWhile fun t => !t.isSwitch
          f.read n { r with unknown := r.unknown ++ strays.map Token.text } (ts.drop strays.length)
    else
      let (r, rest) := f.takeOperands r ts
      ({ r with unknown := r.unknown ++ rest.map Token.text }, none)

/-- What is missing or too much when all arguments have been read. -/
def Form.leftOver? (f : Form κ) (r : Reading κ) : Option Problem :=
  match f.operands, r.operands with
  | .one name _, none => some (.missing name)
  | _, _ => if r.unknown = [] then none else some (.unknown r.unknown)

/-- Reads the arguments of a command.  The switches before a problem are told along with it. -/
def Form.parse (f : Form κ) (arguments : List Text) :
    List (Given κ) × Except Problem (List Text) :=
  match f.tokens arguments with
  | .error p => ([], .error p)
  | .ok ts =>
    let (r, problem) := f.read (ts.length + 1) {} ts
    (r.given, match problem.or (f.leftOver? r) with
      | some p => .error p
      | none => .ok (r.operands.getD []))

end LineSift.Command
