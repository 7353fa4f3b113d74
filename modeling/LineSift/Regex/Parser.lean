import LineSift.Regex.Reader

/-!
# From a pattern to a tree

A pattern is a list of alternatives, an alternative is a sequence of parts, and a part can be a
group that contains a pattern again, to any depth: the limit that an interpreter's stack may set
to it is not modelled.  Reading stops at the first thing that is wrong.
-/

namespace LineSift.Regex

/-- What stands behind an opening parenthesis: a part, nothing that matches, or new flags. -/
inductive GroupResult where
  | item (i : Item)
  | nothing
  | flags (flags : Flags)

namespace Parse

/-- The bounds of a repetition in braces, if they are that. -/
inductive Bounds where
  /-- The brace stands for itself. -/
  | literal
  | between (lo : Nat) (hi : Option Nat)

/-- A bound of a repetition, if it is not too large. -/
def bound (digits : Text) : Parse Nat := do
  if digits.length > 4300 then throw (.hugeNumeral digits.length)
  let n := Text.digitsValue 10 digits
  if n ≥ Width.unbounded then throw .hugeRepeat
  return n

/-- Reads the bounds of a repetition after the opening brace.  If they are not well-formed, nothing
is read. -/
def bounds : Parse Bounds := do
  let here ← get
  if here.rest.head? = some (.plain '}') then return .literal
  let lo ← takeAll CodePoint.isAsciiDigit
  let comma ← accept ','
  let hi ← if comma then takeAll CodePoint.isAsciiDigit else pure lo
  if ← accept '}' then
    let least ← if lo = [] then pure 0 else bound lo
    if hi = [] then return .between least none
    let most ← bound hi
    if most < least then failAt here.pos .boundsReversed
    return .between least (some most)
  else
    set here
    return .literal

/-- Puts a repetition in the place of the last part read; `read` has the last part first. -/
def quantify (start : Nat) (lo : Nat) (hi : Option Nat) (read : List Item) : Parse (List Item) := do
  match read with
  | [] => failAt start .nothingToRepeat
  | item :: others =>
    if item.role = .anchor then failAt start .nothingToRepeat
    if item.role = .repetition then failAt start .multipleRepeat
    if ← accept '?' then return item.repeated .lazy lo hi :: others
    if ← accept '+' then return item.repeated .possessive lo hi :: others
    return item.repeated .greedy lo hi :: others

/-- Skips a comment up to the line feed that ends it; `n` bounds the number of tokens. -/
def skipLine : Nat → Parse Unit
  | 0 => return
  | n + 1 => do
    match ← next with
    | none => return
    | some t => if t = .plain '\n' then return else skipLine n

/-- Skips a comment up to the parenthesis that closes it. -/
def skipComment (start : Nat) : Nat → Parse Unit
  | 0 => return
  | n + 1 => do
    match ← peek with
    | none => failAt start .unterminatedComment
    | some t =>
      let _ ← next
      if t = .plain ')' then return else skipComment start n

/-- A token that patterns with comments skip. -/
def isLayout : Token → Bool
  | .plain c => c.isAsciiSpace
  | _ => false

/-- Opens a group and gives its number. -/
def openGroup (name : Option Text) : Parse Nat := do
  let r ← get
  let number := r.groupCount + 1
  if let some n := name then
    if let some first := r.names.lookup n then
      fail (.repeatedGroupName n number first) (n.length + 1)
  let names := match name with
    | some n => r.names ++ [(n, number)]
    | none => r.names
  set { r with groupCount := number, names }
  return number

/-- Closes a group. -/
def closeGroup (number : Nat) (width : Width) : Parse Unit :=
  modify fun r => { r with closed := (number, width) :: r.closed }

/-- Takes the parenthesis that closes the group begun at `start`. -/
def closing (start : Nat) : Parse Unit := do
  unless ← accept ')' do failAt start .unterminatedGroup

/-- Reads a reference to a named group, after the equals sign. -/
def namedBackref (flags : Flags) : Parse Item := do
  let name ← groupName ')'
  let r ← get
  match r.names.lookup name with
  | none => fail (.unknownGroupName name) (name.length + 1)
  | some group =>
    if (r.closed.lookup group).isNone then fail .openGroup (name.length + 1)
    backref flags group

/-- Reads the group that a conditional asks for, by name or by number. -/
def condition : Parse Nat := do
  let name ← nameTo ')' "group name"
  let back := name.length + 1
  let r ← get
  let group ←
    if isName name then
      match r.names.lookup name with
      | some group => pure group
      | none => fail (.unknownGroupName name) back
    else
      match Text.readInt? name with
      | some (.ofNat group) =>
        if Text.digitCount name > 4300 then fail (.badGroupName name) back
        if group = 0 then fail .groupZero back
        if group ≥ 2147483647 then fail (.noSuchGroup group) back
        if (r.asked.lookup group).isNone then
          set { r with asked := r.asked ++ [(group, r.pos - back)] }
        pure group
      | _ => fail (.badGroupName name) back
  checkBehind group
  return group

/-- A conditional as a part. -/
def condItem (group : Nat) (yes : Item) (no : Option Item) : Item :=
  match no with
  | some n => { node := .cond group yes.node n.node, width := yes.width.union n.width }
  | none => { node := .cond group yes.node .empty, width := ⟨0, yes.width.most⟩ }

/-- A look-behind as a part; one of variable width is remembered as an error. -/
def behindItem (negated : Bool) (body : Item) : Parse Item := do
  if body.width.least ≠ body.width.most then modify fun r => { r with variableBehind := true }
  return { node := .behind negated body.width.least body.node, width := ⟨0, 0⟩ }

mutual

/-- Reads alternatives up to a closing parenthesis or the end.  The first alternative of a whole
pattern is `leading`: it can begin with flags for the whole pattern. -/
def alternatives : Nat → Bool → Flags → Parse Item
  | 0, _, _ => return .ofSequence []
  | fuel + 1, leading, flags => do
    let first ← sequence fuel leading flags []
    let r ← get
    let others ← furtherAlternatives fuel (if leading then r.flags else flags)
    return .ofAlternatives first others
termination_by structural fuel => fuel

/-- Reads the alternatives after the first, each with the bar before it. -/
def furtherAlternatives : Nat → Flags → Parse (List Item)
  | 0, _ => return []
  | fuel + 1, flags => do
    if ← accept '|' then
      let item ← sequence fuel false flags []
      return item :: (← furtherAlternatives fuel flags)
    else return []
termination_by structural fuel => fuel

/-- Reads parts up to a bar, a closing parenthesis or the end; `read` has the last part first. -/
def sequence : Nat → Bool → Flags → List Item → Parse Item
  | 0, _, _, read => return .ofSequence read.reverse
  | fuel + 1, leading, flags, read => do
    let some t ← peek | return .ofSequence read.reverse
    if t = .plain '|' ∨ t = .plain ')' then return .ofSequence read.reverse
    let _ ← next
    let verbose := flags.contains .verbose
    if verbose && isLayout t then sequence fuel leading flags read
    else if verbose && t == .plain '#' then
      skipLine ((← get).rest.length + 1)
      sequence fuel leading flags read
    else
      let start := (← get).pos - 1
      let literal (c : CodePoint) : Item := .char (.literal flags.caseMode c)
      match t with
      | .dangling => return .ofSequence read.reverse
      | .escaped c =>
        let item ← escape flags c
        sequence fuel leading flags (item :: read)
      | .plain (.char '[') =>
        let item ← bracketSet flags
        sequence fuel leading flags (item :: read)
      | .plain (.char '.') =>
        let any := if .dotAll ∈ flags then CharTest.all else .withinLine
        sequence fuel leading flags (.char any :: read)
      | .plain (.char '^') =>
        let a : Anchor := if .multiline ∈ flags then .lineStart else .textStart
        sequence fuel leading flags (.anchor a :: read)
      | .plain (.char '$') =>
        let a : Anchor := if .multiline ∈ flags then .lineEnd else .lastLineEnd
        sequence fuel leading flags (.anchor a :: read)
      | .plain (.char '?') => sequence fuel leading flags (← quantify start 0 (some 1) read)
      | .plain (.char '*') => sequence fuel leading flags (← quantify start 0 none read)
      | .plain (.char '+') => sequence fuel leading flags (← quantify start 1 none read)
      | .plain (.char '\x7b') =>
        match ← bounds with
        | .literal => sequence fuel leading flags (literal '\x7b' :: read)
        | .between lo hi => sequence fuel leading flags (← quantify start lo hi read)
      | .plain (.char '(') =>
        match ← group fuel (leading && read.isEmpty) flags start with
        | .item item => sequence fuel leading flags (item :: read)
        | .nothing => sequence fuel leading flags read
        | .flags flags => sequence fuel leading flags read
      | .plain c => sequence fuel leading flags (literal c :: read)
termination_by structural fuel => fuel

/-- Reads a group after its opening parenthesis, which is at `start`. -/
def group : Nat → Bool → Flags → Nat → Parse GroupResult
  | 0, _, _, _ => return .nothing
  | fuel + 1, leading, flags, start => do
    if ← accept '?' then
      let some t ← next | fail .unexpectedEnd
      match t with
      | .plain (.char 'P') =>
        let some u ← next | fail .unexpectedEnd
        if u = .plain '<' then
          let name ← groupName '>'
          capture fuel flags start (some name)
        else if u = .plain '=' then
          return .item (← namedBackref flags)
        else fail (.unknownExtension (Text.ofString "?P" ++ u.text)) (u.width + 2)
      | .plain (.char ':') => plainGroup fuel flags start
      | .plain (.char '#') =>
        skipComment start ((← get).rest.length + 1)
        return .nothing
      | .plain (.char '=') => look fuel flags start false
      | .plain (.char '!') => look fuel flags start true
      | .plain (.char '<') =>
        let some u ← next | fail .unexpectedEnd
        if u = .plain '=' then lookBehind fuel flags start false
        else if u = .plain '!' then lookBehind fuel flags start true
        else fail (.unknownExtension (Text.ofString "?<" ++ u.text)) (u.width + 2)
      | .plain (.char '(') => conditional fuel flags start
      | .plain (.char '>') =>
        let body ← alternatives fuel false flags
        closing start
        return .item { node := .atomic body.node, width := body.width }
      | _ =>
        if (flag? t).isSome || t == .plain '-' then
          match ← flagChange t with
          | .whole on =>
            if !leading then failAt start .lateFlags
            modify fun r => { r with flags := r.flags ++ on }
            return .flags (← get).flags
          | .forGroup on off => plainGroup fuel (flags.within on off) start
        else fail (.unknownExtension (.char '?' :: t.text)) (t.width + 1)
    else capture fuel flags start none
termination_by structural fuel => fuel

/-- Reads a group whose match is remembered. -/
def capture : Nat → Flags → Nat → Option Text → Parse GroupResult
  | 0, _, _, _ => return .nothing
  | fuel + 1, flags, start, name => do
    let number ← openGroup name
    let body ← alternatives fuel false flags
    closing start
    closeGroup number body.width
    return .item { node := .group number body.node, width := body.width }
termination_by structural fuel => fuel

/-- Reads a group that only holds its parts together. -/
def plainGroup : Nat → Flags → Nat → Parse GroupResult
  | 0, _, _ => return .nothing
  | fuel + 1, flags, start => do
    let body ← alternatives fuel false flags
    closing start
    return .item { body with role := .other }
termination_by structural fuel => fuel

/-- Reads a look-ahead. -/
def look : Nat → Flags → Nat → Bool → Parse GroupResult
  | 0, _, _, _ => return .nothing
  | fuel + 1, flags, start, negated => do
    let body ← alternatives fuel false flags
    closing start
    return .item { node := .ahead negated body.node, width := ⟨0, 0⟩ }
termination_by structural fuel => fuel

/-- Reads a look-behind. -/
def lookBehind : Nat → Flags → Nat → Bool → Parse GroupResult
  | 0, _, _, _ => return .nothing
  | fuel + 1, flags, start, negated => do
    let outer := (← get).behindFrom
    modify fun r => { r with behindFrom := some (outer.getD (r.groupCount + 1)) }
    let body ← alternatives fuel false flags
    modify fun r => { r with behindFrom := outer }
    closing start
    return .item (← behindItem negated body)
termination_by structural fuel => fuel

/-- Reads a conditional. -/
def conditional : Nat → Flags → Nat → Parse GroupResult
  | 0, _, _ => return .nothing
  | fuel + 1, flags, start => do
    let asked ← condition
    let yes ← sequence fuel false flags []
    if ← accept '|' then
      let no ← sequence fuel false flags []
      if (← peek) = some (.plain '|') then fail .manyBranches
      closing start
      return .item (condItem asked yes (some no))
    else
      closing start
      return .item (condItem asked yes none)
termination_by structural fuel => fuel

end

/-- Reads a whole pattern. -/
def whole : Parse Node := do
  let r ← get
  if r.rest = [.dangling] then failAt 0 .escapeAtEnd
  let item ← alternatives (4 * r.rest.length + 4) true []
  let r ← get
  if .ascii ∈ r.flags ∧ .unicode ∈ r.flags then throw .flagClash
  if !r.rest.isEmpty then fail .unbalanced
  if let some (number, pos) := r.asked.find? fun (number, _) => r.groupCount < number then
    failAt pos (.noSuchGroup number)
  if r.variableBehind then throw (.malformed .variableLookbehind none)
  return item.node

end Parse

/-- The tree of a pattern. -/
def parse (pattern : Text) : Except Error Node :=
  (Parse.whole.run { rest := tokens pattern }).map (·.1)

end LineSift.Regex
