import LineSift.Regex.Node

/-!
# Matching

A match is searched for by trying alternatives in order and coming back to the last choice when
the rest of the pattern fails.  The function that matches a node takes the rest of the match as a
continuation, so that every way a node can match is described by one equation, and the first
result in the order of the choices is the match.
-/

namespace LineSift.Regex

/-- Where a match has come to: a position, and the places where groups began and ended.  The
beginning of group `i` is kept under `2 * i` and its end under `2 * i + 1`, the latest first. -/
structure Progress where
  pos : Nat
  marks : List (Nat × Nat) := []

namespace Progress

/-- The same marks at another position. -/
def moveTo (p : Progress) (pos : Nat) : Progress := { p with pos }

/-- Remembers the position under a key. -/
def mark (p : Progress) (key : Nat) : Progress := { p with marks := (key, p.pos) :: p.marks }

/-- The position last remembered under a key. -/
def marked? (p : Progress) (key : Nat) : Option Nat := p.marks.lookup key

/-- The span that a group last matched.  While the group is matched anew its beginning may lie
behind its last end, and then it has no span. -/
def span? (p : Progress) (index : Nat) : Option (Nat × Nat) :=
  match p.marked? (2 * index), p.marked? (2 * index + 1) with
  | some a, some b => if a ≤ b then some (a, b) else none
  | _, _ => none

end Progress

/-- The rest of a match. -/
abbrev Cont := Progress → Option Progress

/-- The code point before a position. -/
def before? (s : Array CodePoint) (pos : Nat) : Option CodePoint :=
  match pos with
  | 0 => none
  | i + 1 => s[i]?

/-- Whether a word is on exactly one side of a position. -/
def atBoundary (s : Array CodePoint) (asciiOnly : Bool) (pos : Nat) : Bool :=
  let isWord (c : Option CodePoint) : Bool := c.any fun d => Category.test asciiOnly d .word
  isWord (before? s pos) != isWord s[pos]?

/-- Whether an anchor holds at a position. -/
def Anchor.holds (s : Array CodePoint) (pos : Nat) : Anchor → Bool
  | .textStart => pos == 0
  | .textEnd => pos == s.size
  | .lastLineEnd => pos == s.size || (pos + 1 == s.size && s[pos]? == some (.char '\n'))
  | .lineStart => pos == 0 || before? s pos == some (.char '\n')
  | .lineEnd => pos == s.size || s[pos]? == some (.char '\n')
  | .boundary asciiOnly => s.size != 0 && atBoundary s asciiOnly pos
  | .noBoundary asciiOnly => s.size != 0 && !atBoundary s asciiOnly pos

/-- How many code points from a position on satisfy a test, up to a limit. -/
def runLength (s : Array CodePoint) (t : CharTest) (pos : Nat) : Nat → Nat
  | 0 => 0
  | limit + 1 =>
    match s[pos]? with
    | some c => if t.test c then runLength s t (pos + 1) limit + 1 else 0
    | none => 0

/-- Tries the rest of the match after `n` further code points, then after fewer. -/
def tryDown (p : Progress) (k : Cont) : Nat → Option Progress
  | 0 => k p
  | n + 1 =>
    match k (p.moveTo (p.pos + (n + 1))) with
    | some r => some r
    | none => tryDown p k n

/-- Tries the rest of the match here, then after one further code point, up to `n`. -/
def tryUp (p : Progress) (k : Cont) : Nat → Option Progress
  | 0 => k p
  | n + 1 =>
    match k p with
    | some r => some r
    | none => tryUp (p.moveTo (p.pos + 1)) k n

/-- Matches a repeated code point. -/
def matchCharRun (s : Array CodePoint) (greed : Greed) (lo : Nat) (hi : Option Nat) (t : CharTest)
    (p : Progress) (k : Cont) : Option Progress :=
  let room := s.size - p.pos
  let n := runLength s t p.pos (match hi with | some h => min h room | none => room)
  if n < lo then none
  else
    match greed with
    | .greedy => tryDown (p.moveTo (p.pos + lo)) k (n - lo)
    | .lazy => tryUp (p.moveTo (p.pos + lo)) k (n - lo)
    | .possessive => k (p.moveTo (p.pos + n))

/-- Matches a part `n` times and then the rest. -/
def matchTimes (item : Progress → Cont → Option Progress) : Nat → Progress → Cont → Option Progress
  | 0, p, k => k p
  | n + 1, p, k => item p fun q => matchTimes item n q k

/-- Matches a part up to `n` times, as often as possible.  A repetition that consumes nothing is
the last one. -/
def matchMany (item : Progress → Cont → Option Progress) : Nat → Progress → Cont → Option Progress
  | 0, p, k => k p
  | n + 1, p, k =>
    match item p fun q => if q.pos = p.pos then k q else matchMany item n q k with
    | some r => some r
    | none => k p

/-- Matches a part up to `n` times, as seldom as possible. -/
def matchFew (item : Progress → Cont → Option Progress) : Nat → Progress → Cont → Option Progress
  | 0, p, k => k p
  | n + 1, p, k =>
    match k p with
    | some r => some r
    | none => item p fun q => if q.pos = p.pos then k q else matchFew item n q k

/-- Matches a part up to `n` times in its first way each, as often as possible. -/
def matchAll (item : Progress → Cont → Option Progress) : Nat → Progress → Progress
  | 0, p => p
  | n + 1, p =>
    match item p some with
    | some q => if q.pos = p.pos then q else matchAll item n q
    | none => p

/-- How many more repetitions can be of use at a position: every repetition but the last
consumes something. -/
def usefulRepeats (s : Array CodePoint) (lo : Nat) (hi : Option Nat) (pos : Nat) : Nat :=
  let room := s.size - pos + 1
  match hi with
  | some h => min (h - lo) room
  | none => room

/-- Matches a repeated part. -/
def matchRepeated (s : Array CodePoint) (item : Progress → Cont → Option Progress)
    (greed : Greed) (lo : Nat) (hi : Option Nat) (p : Progress) (k : Cont) : Option Progress :=
  match greed with
  | .greedy => matchTimes item lo p fun q => matchMany item (usefulRepeats s lo hi q.pos) q k
  | .lazy => matchTimes item lo p fun q => matchFew item (usefulRepeats s lo hi q.pos) q k
  | .possessive =>
    match matchTimes (fun q k' => (item q some).bind k') lo p some with
    | some q => k (matchAll item (usefulRepeats s lo hi q.pos) q)
    | none => none

/-- Whether two code points agree in a back-reference. -/
def sameUpTo (mode : CaseMode) (a b : CodePoint) : Bool :=
  match mode with
  | .exact => a == b
  | .ascii => a.asciiLower == b.asciiLower
  | .full => a.lower == b.lower

/-- Whether the `n` code points at two positions agree. -/
def sameText (s : Array CodePoint) (mode : CaseMode) (i j : Nat) : Nat → Bool
  | 0 => true
  | n + 1 =>
    match s[i]?, s[j]? with
    | some a, some b => sameUpTo mode a b && sameText s mode (i + 1) (j + 1) n
    | _, _ => false

/-- Matches a node at a position and then the rest. -/
def Node.run (s : Array CodePoint) : Node → Progress → Cont → Option Progress
  | .empty, p, k => k p
  | .char t, p, k =>
    match s[p.pos]? with
    | some c => if t.test c then k (p.moveTo (p.pos + 1)) else none
    | none => none
  | .anchor a, p, k => if a.holds s p.pos then k p else none
  | .seq a b, p, k => a.run s p fun q => b.run s q k
  | .alt a b, p, k =>
    match a.run s p k with
    | some r => some r
    | none => b.run s p k
  | .group i body, p, k => body.run s (p.mark (2 * i)) fun q => k (q.mark (2 * i + 1))
  | .charRun greed lo hi t, p, k => matchCharRun s greed lo hi t p k
  | .repeated greed lo hi body, p, k =>
    matchRepeated s (fun q k' => body.run s q k') greed lo hi p k
  | .ahead negated body, p, k =>
    match body.run s p some with
    | some q => if negated then none else k (q.moveTo p.pos)
    | none => if negated then k p else none
  | .behind negated width body, p, k =>
    match if width ≤ p.pos then body.run s (p.moveTo (p.pos - width)) some else none with
    | some q => if negated then none else k (q.moveTo p.pos)
    | none => if negated then k p else none
  | .backref i mode, p, k =>
    match p.span? i with
    | some (a, b) =>
      if p.pos + (b - a) ≤ s.size && sameText s mode a p.pos (b - a) then
        k (p.moveTo (p.pos + (b - a)))
      else none
    | none => none
  | .cond i yes no, p, k =>
    if (p.span? i).isSome then yes.run s p k else no.run s p k
  | .atomic body, p, k =>
    match body.run s p some with
    | some q => k q
    | none => none

/-- The end of the match of a node that begins at a position. -/
def Node.matchFrom (n : Node) (s : Array CodePoint) (start : Nat) : Option Nat :=
  (n.run s ⟨start, []⟩ some).map (·.pos)

/-- The first match that begins at a position with `left` code points behind it, or later. -/
def Node.searchFrom (n : Node) (s : Array CodePoint) (start : Nat) : Nat → Option (Nat × Nat)
  | 0 => (n.matchFrom s start).map (start, ·)
  | left + 1 =>
    match n.matchFrom s start with
    | some stop => some (start, stop)
    | none => searchFrom n s (start + 1) left

/-- The leftmost match of a node, as its beginning and its end. -/
def Node.search (n : Node) (s : Array CodePoint) : Option (Nat × Nat) :=
  n.searchFrom s 0 s.size

end LineSift.Regex
