import LineSift.Encoding.Basic
import LineSift.Kind
import LineSift.Text.Number

/-!
# From bytes to text

Bytes are first cut into pieces, each of which is a code point or a span that stands for none.  In
UTF-8 a span is as long as its bytes could still begin a code point, so that a byte that does not
continue a code point is looked at again on its own.  Then the spans are treated.
-/

namespace LineSift

/-- Bytes, as they are in a file. -/
abbrev Bytes := List UInt8

namespace Encoding

/-- Why a span of bytes stands for no code point. -/
inductive Fault where
  | badStart
  | badContinuation
  | endOfData
  | notAscii
  deriving DecidableEq

/-- The wording of a fault. -/
def Fault.message : Fault → String
  | .badStart => "invalid start byte"
  | .badContinuation => "invalid continuation byte"
  | .endOfData => "unexpected end of data"
  | .notAscii => "ordinal not in range(128)"

/-- A piece of bytes. -/
inductive Piece where
  /-- Bytes that stand for a code point. -/
  | good (bytes : Bytes) (c : CodePoint)
  /-- Bytes that stand for none. -/
  | bad (bytes : Bytes) (fault : Fault)
  deriving DecidableEq

/-- The bytes of a piece. -/
def Piece.bytes : Piece → Bytes
  | .good bytes _ => bytes
  | .bad bytes _ => bytes

/-- The ranges of the bytes that must follow a first byte of UTF-8; none if no code point of two
bytes or more begins with it. -/
def followers (b : UInt8) : List (UInt8 × UInt8) :=
  let any : UInt8 × UInt8 := (0x80, 0xBF)
  if 0xC2 ≤ b ∧ b ≤ 0xDF then [any]
  else if b = 0xE0 then [(0xA0, 0xBF), any]
  else if b = 0xED then [(0x80, 0x9F), any]
  else if 0xE1 ≤ b ∧ b ≤ 0xEF then [any, any]
  else if b = 0xF0 then [(0x90, 0xBF), any, any]
  else if b = 0xF4 then [(0x80, 0x8F), any, any]
  else if 0xF1 ≤ b ∧ b ≤ 0xF3 then [any, any, any]
  else []

/-- The code point of the bytes of a complete UTF-8 sequence. -/
def assemble : Bytes → CodePoint
  | [a] => .ofNat a.toNat
  | [a, b] => .ofNat ((a.toNat % 32) * 64 + b.toNat % 64)
  | [a, b, c] => .ofNat (((a.toNat % 16) * 64 + b.toNat % 64) * 64 + c.toNat % 64)
  | [a, b, c, d] =>
    .ofNat ((((a.toNat % 8) * 64 + b.toNat % 64) * 64 + c.toNat % 64) * 64 + d.toNat % 64)
  | _ => .replacement

/-- A sequence that has begun: its bytes so far, and the ranges of those that must follow. -/
structure Begun where
  bytes : Bytes := []
  need : List (UInt8 × UInt8) := []

/-- What a byte at the beginning of a sequence leads to. -/
def first (b : UInt8) : List Piece × Begun :=
  if b < 0x80 then ([.good [b] (assemble [b])], {})
  else match followers b with
    | [] => ([.bad [b] .badStart], {})
    | need => ([], ⟨[b], need⟩)

/-- What a byte leads to after a sequence has begun. -/
def next (s : Begun) (b : UInt8) : List Piece × Begun :=
  match s.need with
  | [] => first b
  | (lo, hi) :: need =>
    if lo ≤ b ∧ b ≤ hi then
      let bytes := s.bytes ++ [b]
      if need = [] then ([.good bytes (assemble bytes)], {}) else ([], ⟨bytes, need⟩)
    else
      let (ps, s') := first b
      (.bad s.bytes .badContinuation :: ps, s')

/-- The pieces of bytes after a sequence has begun, and the sequence that they leave begun. -/
def utf8From (s : Begun) : Bytes → List Piece × Begun
  | [] => ([], s)
  | b :: bs =>
    let (ps, s) := next s b
    let (qs, s) := utf8From s bs
    (ps ++ qs, s)

/-- The piece that is left when the data end within a sequence. -/
def Begun.close (s : Begun) : List Piece :=
  if s.bytes = [] then [] else [.bad s.bytes .endOfData]

/-- The pieces of UTF-8. -/
def utf8Pieces (bytes : Bytes) : List Piece :=
  let (ps, s) := utf8From {} bytes
  ps ++ s.close

/-- The pieces of bytes in an encoding. -/
def pieces : Encoding → Bytes → List Piece
  | .utf8, bytes => utf8Pieces bytes
  | .ascii, bytes => bytes.map fun b =>
      if b < 0x80 then .good [b] (.ofNat b.toNat) else .bad [b] .notAscii
  | .latin1, bytes => bytes.map fun b => .good [b] (.ofNat b.toNat)

/-- Why bytes cannot be decoded. -/
inductive Error where
  /-- The encoding is not known. -/
  | unknownEncoding (name : Text)
  /-- There is something to treat, and the treatment cannot be used; a name of the encoding that had
  to be looked up is told. -/
  | untreated (cause : Treatment.Unusable) (lookedUp : Option Text)
  /-- Bytes at a position stand for no text. -/
  | undecodable (encoding : Encoding) (span : Bytes) (pos : Nat) (fault : Fault)
  deriving DecidableEq

namespace Error

/-- The kind of each cause. -/
def kind : Error → Kind
  | .unknownEncoding _ | .untreated (.unknown _) _ => .lookup
  | .untreated .unsuited _ => .badType
  | .undecodable .. => .decoding

open Text (ofString)

/-- The wording of each cause. -/
def message : Error → Text
  | .unknownEncoding name => ofString "unknown encoding: " ++ name
  | .untreated cause none => cause.message
  | .untreated cause (some name) =>
    ofString "decoding with '" ++ name ++ ofString "' codec failed (" ++
      (match cause with
      | .unknown _ => ofString "LookupError: "
      | .unsuited => ofString "TypeError: ") ++
      cause.message ++ ofString ")"
  | .undecodable encoding span pos fault =>
    ofString "'" ++ ofString encoding.label ++ ofString "' codec can't decode " ++
      (match span with
      | [b] =>
        ofString "byte 0x" ++ Text.hex 2 b.toNat ++ ofString " in position " ++ Text.decimal pos
      | _ => ofString "bytes in position " ++ Text.decimal pos ++ ofString "-" ++
          Text.decimal (pos + span.length - 1)) ++
      ofString ": " ++ ofString fault.message

end Error

/-- The hexadecimal escape of a byte. -/
def escapeByte (b : UInt8) : Text := Text.ofString "\\x" ++ Text.hex 2 b.toNat

/-- The text of pieces from a position on; a treatment that cannot be used is an error where there
is something to treat. -/
def treat (encoding : Encoding) (treatment : Except Error Treatment) :
    Nat → List Piece → Except Error Text
  | _, [] => .ok []
  | pos, .good bytes c :: ps =>
    (treat encoding treatment (pos + bytes.length) ps).map (c :: ·)
  | pos, .bad bytes fault :: ps =>
    let onward := treat encoding treatment (pos + bytes.length) ps
    let refusal := Except.error (.undecodable encoding bytes pos fault)
    match treatment with
    | .error e => .error e
    | .ok .refuse => refusal
    | .ok .replace => onward.map (.replacement :: ·)
    | .ok .ignore => onward
    | .ok .escape => onward.map (bytes.flatMap escapeByte ++ ·)
    | .ok .carry => onward.map (bytes.map (fun b => .ofNat (0xDC00 + b.toNat)) ++ ·)
    | .ok .surrogates =>
      match encoding, bytes, ps with
      | .utf8, [0xED], .bad [b] _ :: .bad [c] _ :: rest =>
        if 0xA0 ≤ b ∧ b ≤ 0xBF ∧ 0x80 ≤ c ∧ c ≤ 0xBF then
          (treat encoding treatment (pos + 3) rest).map (assemble [0xED, b, c] :: ·)
        else refusal
      | _, _, _ => refusal

/-- Decodes bytes by the names of an encoding and a treatment.  Without any bytes the names do not
matter. -/
def decode (encoding treatment : Text) (bytes : Bytes) : Except Error Text :=
  if bytes = [] then .ok []
  else match ofName? encoding with
    | none => .error (.unknownEncoding encoding)
    | some e =>
      let lookedUp := if isLookedUp encoding then some encoding else none
      treat e ((Treatment.ofName treatment).mapError (.untreated · lookedUp)) 0 (e.pieces bytes)

/-- Decodes UTF-8, with an error for bytes that stand for no text. -/
def decodeStrict (bytes : Bytes) : Except Error Text :=
  treat .utf8 (.ok .refuse) 0 (utf8Pieces bytes)

/-- The UTF-8 bytes of a code point; a surrogate is written like a code point of its size. -/
def encodeCodePoint (c : CodePoint) : Bytes :=
  let n := c.toNat
  if n < 0x80 then [n.toUInt8]
  else if n < 0x800 then [(0xC0 + n / 64).toUInt8, (0x80 + n % 64).toUInt8]
  else if n < 0x10000 then
    [(0xE0 + n / 4096).toUInt8, (0x80 + n / 64 % 64).toUInt8, (0x80 + n % 64).toUInt8]
  else
    [(0xF0 + n / 262144).toUInt8, (0x80 + n / 4096 % 64).toUInt8, (0x80 + n / 64 % 64).toUInt8,
      (0x80 + n % 64).toUInt8]

/-- The UTF-8 bytes of a text. -/
def encode (t : Text) : Bytes := t.flatMap encodeCodePoint

/-- Cuts bytes into lines behind each line feed. -/
def byteLines : Bytes → List Bytes
  | [] => []
  | b :: bs =>
    if b = 0x0A then [b] :: byteLines bs
    else match byteLines bs with
      | [] => [[b]]
      | l :: ls => (b :: l) :: ls

end Encoding

end LineSift
