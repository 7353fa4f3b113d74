import LineSift.Regex.Error
import LineSift.Regex.Node
import LineSift.Regex.Token
import LineSift.Text.CharName

/-!
# Reading a pattern

The state of a reader of patterns, and the readers of the parts that contain no further patterns:
names, numbers, escapes, sets and flags.  A backslash at the end of a pattern is an error as soon
as the token before it is taken, whatever that token means.
-/

namespace LineSift.Regex

/-- The flags of a pattern. -/
inductive Flag where
  | ignoreCase
  | locale
  | multiline
  | dotAll
  | verbose
  | ascii
  | template
  | unicode
  deriving DecidableEq

/-- A set of flags. -/
abbrev Flags := List Flag

/-- The flag that a letter stands for. -/
def Flag.ofLetter? : CodePoint → Option Flag
  | .char 'i' => some .ignoreCase
  | .char 'L' => some .locale
  | .char 'm' => some .multiline
  | .char 's' => some .dotAll
  | .char 'x' => some .verbose
  | .char 'a' => some .ascii
  | .char 't' => some .template
  | .char 'u' => some .unicode
  | _ => none

/-- The flags that choose a kind of text; at most one of them can be given. -/
def Flag.isKind (f : Flag) : Bool := f == .ascii || f == .locale || f == .unicode

namespace Flags

/-- How case counts under a set of flags. -/
def caseMode (flags : Flags) : CaseMode :=
  if .ignoreCase ∈ flags then (if .ascii ∈ flags then .ascii else .full) else .exact

/-- Whether classes and boundaries are restricted to ASCII. -/
def asciiOnly (flags : Flags) : Bool := flags.contains .ascii

/-- The flags within a group that turns some on and some off. -/
def within (flags on off : Flags) : Flags :=
  let kept := if on.any Flag.isKind then flags.filter (!·.isKind) else flags
  (kept ++ on).filter fun f => !off.contains f

end Flags

/-- The least and the greatest number of code points that a part can match.  Both are cut off
where lengths are no longer told apart. -/
structure Width where
  least : Nat
  most : Nat
  deriving DecidableEq

namespace Width

/-- The largest bound of a repetition that counts as a bound. -/
def unbounded : Nat := 4294967295

/-- A width within the range of lengths that are told apart. -/
def cut (least most : Nat) : Width := ⟨min least (unbounded - 1), min most unbounded⟩

/-- The width of one part after another. -/
def add (a b : Width) : Width := cut (a.least + b.least) (a.most + b.most)

/-- The width of one part or another. -/
def union (a b : Width) : Width := ⟨min a.least b.least, max a.most b.most⟩

/-- The width of a repeated part. -/
def times (a : Width) (lo : Nat) (hi : Option Nat) : Width :=
  cut (a.least * lo) (a.most * hi.getD unbounded)

end Width

/-- What a part of a pattern is to a repetition that follows it. -/
inductive Role where
  /-- An anchor, which cannot be repeated. -/
  | anchor
  /-- A repetition, which cannot be repeated again. -/
  | repetition
  /-- Anything else. -/
  | other
  deriving DecidableEq

/-- A part of a pattern that has been read. -/
structure Item where
  node : Node
  width : Width
  role : Role := .other

namespace Item

/-- A part that matches one code point. -/
def char (t : CharTest) : Item := { node := .char t, width := ⟨1, 1⟩ }

/-- A part that matches a place. -/
def anchor (a : Anchor) : Item := { node := .anchor a, width := ⟨0, 0⟩, role := .anchor }

/-- The parts one after the other. -/
def ofSequence (items : List Item) : Item :=
  { node := Node.ofList (items.map Item.node)
    width := items.foldl (fun w i => w.add i.width) ⟨0, 0⟩ }

/-- The parts as alternatives. -/
def ofAlternatives (first : Item) (others : List Item) : Item :=
  { node := Node.anyOf first.node (others.map Item.node)
    width := others.foldl (fun w i => w.union i.width) first.width }

/-- A repeated part. -/
def repeated (greed : Greed) (lo : Nat) (hi : Option Nat) (item : Item) : Item :=
  { node :=
      match item.node with
      | .char t => .charRun greed lo hi t
      | body => .repeated greed lo hi body
    width := item.width.times lo hi
    role := .repetition }

end Item

/-- The state of a reader of patterns. -/
structure Reader where
  /-- The tokens not read yet. -/
  rest : List Token
  /-- How much of the pattern has been read. -/
  pos : Nat := 0
  /-- The flags for the whole pattern. -/
  flags : Flags := []
  /-- How many groups have been opened. -/
  groupCount : Nat := 0
  /-- The widths of the groups that have been closed. -/
  closed : List (Nat × Width) := []
  /-- The numbers of the named groups. -/
  names : List (Text × Nat) := []
  /-- Inside a look-behind, the number of the next group when it began. -/
  behindFrom : Option Nat := none
  /-- Groups that conditionals ask for, with the places where they do. -/
  asked : List (Nat × Nat) := []
  /-- Whether some look-behind can match texts of different lengths. -/
  variableBehind : Bool := false

/-- A step in reading a pattern. -/
abbrev Parse := StateT Reader (Except Error)

namespace Parse

/-- Fails at a given place. -/
def failAt {α : Type} (pos : Nat) (problem : Problem) : Parse α :=
  throw (.malformed problem (some pos))

/-- Fails at a number of code points before the place reached. -/
def fail {α : Type} (problem : Problem) (back : Nat := 0) : Parse α := do
  failAt ((← get).pos - back) problem

/-- The next token, which is not taken. -/
def peek : Parse (Option Token) := return (← get).rest.head?

/-- Takes the next token, if there is one. -/
def next : Parse (Option Token) := do
  let r ← get
  match r.rest with
  | [] => return none
  | t :: ts =>
    let pos := r.pos + t.width
    if ts = [.dangling] then failAt pos .escapeAtEnd
    set { r with rest := ts, pos }
    return some t

/-- Takes the next token if it is a given code point. -/
def accept (c : CodePoint) : Parse Bool := do
  if (← peek) = some (.plain c) then
    let _ ← next
    return true
  else return false

/-- Takes up to `n` code points that satisfy a test. -/
def takeWhile (p : CodePoint → Bool) : Nat → Parse Text
  | 0 => return []
  | n + 1 => do
    match (← peek).bind Token.plain? with
    | some c =>
      if p c then
        let _ ← next
        return c :: (← takeWhile p n)
      else return []
    | none => return []

/-- Takes all code points that satisfy a test. -/
def takeAll (p : CodePoint → Bool) : Parse Text := do
  takeWhile p (← get).rest.length

/-- Reads a name up to a terminator, which is taken; `n` bounds the number of tokens. -/
def nameUntil (terminator : CodePoint) (kind : Text) (read : Text) : Nat → Parse Text
  | 0 => return read
  | n + 1 => do
    match ← next with
    | none =>
      if read = [] then fail (.missingName kind)
      else fail (.unterminatedName terminator) read.length
    | some t =>
      if t = .plain terminator then
        if read = [] then fail (.missingName kind) 1 else return read
      else nameUntil terminator kind (read ++ t.text) n

/-- Reads a name up to a terminator. -/
def nameTo (terminator : CodePoint) (kind : Text) : Parse Text := do
  nameUntil terminator kind [] ((← get).rest.length + 1)

/-- Whether a text can be the name of a group. -/
def isName (t : Text) : Bool :=
  match t with
  | [] => false
  | c :: _ => !c.isDecimal && t.all CodePoint.isWord

/-- Reads the name of a group up to a terminator. -/
def groupName (terminator : CodePoint) : Parse Text := do
  let name ← nameTo terminator "group name"
  if isName name then return name else fail (.badGroupName name) (name.length + 1)

/-- A code point given by its number in an escape. -/
def numbered (written : Text) (n : Nat) : Parse CodePoint :=
  match CodePoint.ofNat? n with
  | some c => return c
  | none =>
    if n < 0x80000000 then fail (.badEscape written) written.length else throw .hugeCodePoint

/-- Reads an escape with a fixed number of hexadecimal digits. -/
def hexEscape (letter : CodePoint) (count : Nat) : Parse CodePoint := do
  let digits ← takeWhile CodePoint.isHexDigit count
  let written := .char '\\' :: letter :: digits
  if digits.length = count then numbered written (Text.digitsValue 16 digits)
  else fail (.incompleteEscape written) written.length

/-- Reads the name of a code point in braces. -/
def namedEscape : Parse CodePoint := do
  if ← accept '{' then
    let name ← nameTo '}' "character name"
    match CodePoint.ofName? name with
    | some c => return c
    | none => fail (.unknownCharacter name) (name.length + 4)
  else fail .missingBrace

/-- The code point for which a letter stands after a backslash, inside and outside of sets. -/
def letterEscape? : CodePoint → Option CodePoint
  | .char 'a' => some (.char '\x07')
  | .char 'b' => some (.char '\x08')
  | .char 'f' => some (.char '\x0c')
  | .char 'n' => some (.char '\n')
  | .char 'r' => some (.char '\r')
  | .char 't' => some (.char '\t')
  | .char 'v' => some (.char '\x0b')
  | .char '\\' => some (.char '\\')
  | _ => none

/-- The class for which a letter stands after a backslash, and whether it is turned around. -/
def category? : CodePoint → Option (Category × Bool)
  | .char 'd' => some (.digit, false)
  | .char 'D' => some (.digit, true)
  | .char 's' => some (.space, false)
  | .char 'S' => some (.space, true)
  | .char 'w' => some (.word, false)
  | .char 'W' => some (.word, true)
  | _ => none

/-- The anchor for which a letter stands after a backslash. -/
def anchor? (asciiOnly : Bool) : CodePoint → Option Anchor
  | .char 'A' => some .textStart
  | .char 'Z' => some .textEnd
  | .char 'b' => some (.boundary asciiOnly)
  | .char 'B' => some (.noBoundary asciiOnly)
  | _ => none

/-- The escapes that are the same inside and outside of sets and are not letters for themselves:
numbers in hexadecimal, and names. -/
def codeEscape? (c : CodePoint) : Option (Parse CodePoint) :=
  if c = .char 'x' then some (hexEscape c 2)
  else if c = .char 'u' then some (hexEscape c 4)
  else if c = .char 'U' then some (hexEscape c 8)
  else if c = .char 'N' then some namedEscape
  else none

/-- A code point that stands for itself after a backslash. -/
def itself (c : CodePoint) : Parse CodePoint :=
  if c.isAsciiAlpha || c.isAsciiDigit then fail (.badEscape [.char '\\', c]) 2 else return c

/-- An octal escape as a code point, if it is in range. -/
def octal (digits : Text) : Parse CodePoint :=
  let n := Text.digitsValue 8 digits
  if n ≤ 0o377 then return CodePoint.ofNat n
  else fail (.octalRange (.char '\\' :: digits)) (digits.length + 1)

/-- A member of a set before it is known whether a range begins with it. -/
inductive Member where
  | code (c : CodePoint)
  | category (k : Category) (negated : Bool)

/-- Reads the rest of an escape inside a set. -/
def memberEscape (c : CodePoint) : Parse Member := do
  if let some d := letterEscape? c then return .code d
  if let some (k, negated) := category? c then return .category k negated
  if let some step := codeEscape? c then return .code (← step)
  if c.isOctDigit then
    let digits ← takeWhile CodePoint.isOctDigit 2
    return .code (← octal (c :: digits))
  return .code (← itself c)

/-- Reads the rest of a member of a set that begins with a token. -/
def member (t : Token) : Parse Member :=
  match t with
  | .plain c => return .code c
  | .escaped c => memberEscape c
  | .dangling => return .code (.char '\\')

/-- A member of a set on its own. -/
def Member.toItem (asciiOnly : Bool) : Member → SetItem
  | .code c => .single c
  | .category k negated => .category k asciiOnly negated

/-- Reads the members of a set up to the bracket that closes it.  The bracket that opened it is at
`start`, and `n` bounds the number of tokens. -/
def setItems (asciiOnly : Bool) (start : Nat) (read : List SetItem) : Nat → Parse (List SetItem)
  | 0 => return read
  | n + 1 => do
    let some t ← next | failAt start .unterminatedSet
    if t = .plain ']' ∧ read ≠ [] then return read
    let first ← member t
    if ← accept '-' then
      let some u ← next | failAt start .unterminatedSet
      if u = .plain ']' then
        return read ++ [first.toItem asciiOnly, .single '-']
      let second ← member u
      let bad : Parse (List SetItem) :=
        fail (.badRange t.text u.text) (t.width + 1 + u.width)
      match first, second with
      | .code lo, .code hi =>
        if hi < lo then bad
        else setItems asciiOnly start (read ++ [.range lo hi]) n
      | _, _ => bad
    else setItems asciiOnly start (read ++ [first.toItem asciiOnly]) n

/-- Reads a set after its opening bracket. -/
def bracketSet (flags : Flags) : Parse Item := do
  let start := (← get).pos - 1
  let negated ← accept '^'
  let items ← setItems flags.asciiOnly start [] ((← get).rest.length + 1)
  return .char ⟨items, negated, flags.caseMode⟩

/-- Fails if a look-behind refers to a group that is open or that it defines itself. -/
def checkBehind (group : Nat) : Parse Unit := do
  let r ← get
  if let some bound := r.behindFrom then
    if (r.closed.lookup group).isNone then fail .openGroup
    if bound ≤ group then fail .groupInLookbehind

/-- A reference back to a group. -/
def backref (flags : Flags) (group : Nat) : Parse Item := do
  checkBehind group
  let width := ((← get).closed.lookup group).getD ⟨0, 0⟩
  return { node := .backref group flags.caseMode, width }

/-- Reads an escape that begins with a digit other than zero: three octal digits, or the number of
a group. -/
def digitEscape (flags : Flags) (c : CodePoint) : Parse Item := do
  let second ← takeWhile CodePoint.isAsciiDigit 1
  let third ←
    if c.isOctDigit && !second.isEmpty && second.all CodePoint.isOctDigit then
      takeWhile CodePoint.isOctDigit 1
    else pure []
  if !third.isEmpty then
    return .char (.literal flags.caseMode (← octal (c :: second ++ third)))
  let group := Text.digitsValue 10 (c :: second)
  let r ← get
  if group ≤ r.groupCount then
    if (r.closed.lookup group).isNone then fail .openGroup (second.length + 2)
    backref flags group
  else fail (.noSuchGroup group) (second.length + 1)

/-- Reads the rest of an escape outside of sets. -/
def escape (flags : Flags) (c : CodePoint) : Parse Item := do
  let literal (d : CodePoint) : Item := .char (.literal flags.caseMode d)
  if let some a := anchor? flags.asciiOnly c then return .anchor a
  if let some (k, negated) := category? c then
    return .char (.ofCategory k flags.asciiOnly negated)
  if let some d := letterEscape? c then return literal d
  if let some step := codeEscape? c then return literal (← step)
  if c = .char '0' then
    let digits ← takeWhile CodePoint.isOctDigit 2
    return literal (CodePoint.ofNat (Text.digitsValue 8 digits))
  if c.isAsciiDigit then digitEscape flags c
  else return literal (← itself c)

/-- The flags that a group begins with. -/
inductive FlagChange where
  /-- Flags for the whole pattern. -/
  | whole (on : Flags)
  /-- Flags turned on and off for the group. -/
  | forGroup (on off : Flags)

/-- Whether a token is a letter; what is no flag is reported by that. -/
def isLetter (t : Token) : Bool :=
  match t with
  | .plain c => c.isAlnum && !c.isDecimal
  | _ => false

/-- Fails at a token in a list of flags. -/
def notFlag {α : Type} (t : Token) (expected : String) : Parse α :=
  fail (if isLetter t then .unknownFlag else .missingInFlags expected) t.width

/-- The flag that a token stands for. -/
def flag? (t : Token) : Option Flag := t.plain?.bind Flag.ofLetter?

/-- Reads the flags to turn off, after the first; `n` bounds the number of tokens. -/
def flagsOff (off : Flags) (f : Flag) : Nat → Parse Flags
  | 0 => return off
  | n + 1 => do
    if f.isKind then fail .kindTurnedOff
    let off := off ++ [f]
    let some t ← next | fail (.missingInFlags ":")
    if t = .plain ':' then return off
    match flag? t with
    | some g => flagsOff off g n
    | none => notFlag t ":"

/-- Reads the flags to turn off behind a dash. -/
def flagsAfterDash : Parse Flags := do
  let some t ← next | fail (.missingInFlags "flag")
  match flag? t with
  | some f => flagsOff [] f ((← get).rest.length + 1)
  | none => notFlag t "flag"

/-- Reads the flags to turn on, after the first, with the token that ends them. -/
def flagsOn (on : Flags) (f : Flag) : Nat → Parse (Flags × Token)
  | 0 => return (on, .dangling)
  | n + 1 => do
    if f = .locale then fail .localeFlag
    let on := on ++ [f]
    if f.isKind && on.any fun g => g.isKind && g != f then fail .flagKinds
    let some t ← next | fail (.missingInFlags "-, : or )")
    if t = .plain ')' ∨ t = .plain '-' ∨ t = .plain ':' then return (on, t)
    match flag? t with
    | some g => flagsOn on g n
    | none => notFlag t "-, : or )"

/-- Reads the flags at the beginning of a group; the first token has been taken. -/
def flagChange (t : Token) : Parse FlagChange := do
  let (on, last) ←
    match flag? t with
    | some f => flagsOn [] f ((← get).rest.length + 1)
    | none => pure ([], t)
  if last = .plain ')' then return .whole on
  if .template ∈ on then fail (.globalFlag true) 1
  let off ← if last = .plain '-' then flagsAfterDash else pure []
  if .template ∈ off then fail (.globalFlag false) 1
  if on.any off.contains then fail .onAndOff 1
  return .forGroup on off

end Parse

end LineSift.Regex
