import LineSift.Encoding.Decode
import LineSift.RuleSet.Basic

/-!
# Unknown lines in batches

Lines are taken one after the other.  White space around a line does not count, and neither do
empty lines and lines that a rule set knows.  The others are collected, and handed out in batches of
a given size as soon as a batch is full; at the end the last lines are handed out as a smaller one.

The receiver of batches has a state of its own and can fail.  Then the work ends at once.  What has
been taken from the input and how far the batches reach that were received is kept account of.
-/

namespace LineSift.Scan

/-- Why a receiver fails. -/
inductive Fault where
  /-- It says so itself. -/
  | declared (message : Text)
  /-- Something happened to it. -/
  | suffered (kind : Kind) (message : Text)
  deriving DecidableEq

namespace Fault

open Text (ofString)

/-- The wording for a receiver that fails. -/
def message : Fault → Text
  | .declared message => message
  | .suffered _ message => ofString "handler failed: " ++ message

/-- The kind of what happened to a receiver. -/
def cause? : Fault → Option Kind
  | .declared _ => none
  | .suffered kind _ => some kind

end Fault

/-- A receiver of batches, with its state. -/
abbrev Receiver (σ : Type) := List Text → ExceptT Fault (StateM σ) Unit

/-- A line of the input and the position behind it. -/
structure Line where
  text : Except Encoding.Error Text
  stop : Nat

/-- Why the work ends before its time. -/
inductive Failure where
  /-- The size of batches is not positive. -/
  | badSize
  /-- A line is not text. -/
  | undecodable (e : Encoding.Error)
  /-- The receiver fails. -/
  | receiver (f : Fault)
  deriving DecidableEq

namespace Failure

/-- The kind of each cause. -/
def kind : Failure → Kind
  | .badSize => .badValue
  | .undecodable e => e.kind
  | .receiver _ => .handler

/-- The wording of each cause. -/
def message : Failure → Text
  | .badSize => "batch_size must be positive"
  | .undecodable e => e.message
  | .receiver f => f.message

end Failure

/-- How the work ended: the state of the receiver, the position behind the last line taken, the
position up to which lines have been received, and the failure if there was one. -/
structure Outcome (σ : Type) where
  state : σ
  taken : Nat
  received : Nat
  failure : Option Failure := none

/-- Whether a line without white space around it is handed out. -/
def isUnknown (rules : List RuleSet) (line : Text) : Bool :=
  line ≠ [] && !RuleSet.anyKnows rules line

/-- Hands out a batch that reaches up to a position. -/
def handOut {σ : Type} (receive : Receiver σ) (batch : List Text) (taken received : Nat) (s : σ) :
    Outcome σ :=
  match receive batch s with
  | (.ok (), s) => { state := s, taken, received := taken }
  | (.error f, s) => { state := s, taken, received, failure := some (.receiver f) }

/-- Goes on with a batch that has been begun. -/
def loop {σ : Type} (rules : List RuleSet) (size : Nat) (receive : Receiver σ) :
    List Line → List Text → Nat → Nat → σ → Outcome σ
  | [], batch, taken, received, s =>
    if batch = [] then { state := s, taken, received } else handOut receive batch taken received s
  | l :: ls, batch, _, received, s =>
    match l.text with
    | .error e => { state := s, taken := l.stop, received, failure := some (.undecodable e) }
    | .ok text =>
      let line := text.strip
      if isUnknown rules line then
        let batch := batch ++ [line]
        if size ≤ batch.length then
          let o := handOut receive batch l.stop received s
          match o.failure with
          | some _ => o
          | none => loop rules size receive ls [] o.taken o.received o.state
        else loop rules size receive ls batch l.stop received s
      else loop rules size receive ls batch l.stop received s

/-- Hands out the unknown lines of an input that begins at a position. -/
def run {σ : Type} (rules : List RuleSet) (size : Int) (receive : Receiver σ) (start : Nat)
    (lines : List Line) (s : σ) : Outcome σ :=
  if size < 1 then { state := s, taken := start, received := start, failure := some .badSize }
  else loop rules size.toNat receive lines [] start start s

/-- Lines with the number of lines up to each. -/
def numbered (lines : List (Except Encoding.Error Text)) : List Line :=
  lines.zipIdx.map fun (text, i) => ⟨text, i + 1⟩

/-- The lines of bytes, decoded by the names of an encoding and a treatment, with the offset behind
each; the bytes begin at an offset. -/
def byteLines (encoding treatment : Text) : Nat → List Bytes → List Line
  | _, [] => []
  | start, l :: ls =>
    ⟨Encoding.decode encoding treatment l, start + l.length⟩ ::
      byteLines encoding treatment (start + l.length) ls

end LineSift.Scan
