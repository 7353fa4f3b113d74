import LineSift.Text.Case
import LineSift.Text.Replace

/-!
# Encodings and their names

Bytes become text by one of three encodings.  An encoding has many names; case does not matter in
them, and neither does what stands between letters and digits.  Bytes that an encoding has no text
for are treated in one of several ways, which have names too.

UTF-8, ASCII and Latin-1 are the only encodings that are known here.  A system can know more of
them; the name of any other one, such as `cp1252` or `utf-16`, counts as unknown like a name that
no system knows.
-/

namespace LineSift

/-- A way in which bytes stand for text. -/
inductive Encoding where
  | utf8
  | ascii
  | latin1
  deriving DecidableEq

namespace Encoding

/-- The name of an encoding in messages. -/
def label : Encoding → String
  | .utf8 => "utf-8"
  | .ascii => "ascii"
  | .latin1 => "latin-1"

/-- The parts of a name: runs of ASCII letters, digits and points, in lower case. -/
def nameParts (name : Text) : List Text :=
  let marked : Text := name.map fun c =>
    if c.isAsciiAlnum || c == .char '.' then c.asciiLower else .char ' '
  (marked.splitOn [.char ' ']).filter (· ≠ [])

/-- A name of an encoding in its normal form: its parts with underscores between them. -/
def normalize (name : Text) : Text := Text.join [.char '_'] (nameParts name)

/-- The normal forms of the names of each encoding. -/
def names : Encoding → List String
  | .utf8 => ["utf_8", "utf8", "u8", "utf", "utf8_ucs2", "utf8_ucs4", "cp65001"]
  | .ascii => ["ascii", "646", "ansi_x3.4_1968", "ansi_x3_4_1968", "ansi_x3.4_1986", "cp367",
      "csascii", "ibm367", "iso646_us", "iso_646.irv_1991", "iso_ir_6", "us", "us_ascii"]
  | .latin1 => ["latin_1", "latin1", "8859", "cp819", "csisolatin1", "ibm819", "iso8859",
      "iso8859_1", "iso_8859_1", "iso_8859_1_1987", "iso_ir_100", "l1", "latin"]

/-- The names, in their normal form, that are recognised without being looked up. -/
def directNames : List String :=
  ["utf8", "utf_8", "ascii", "us_ascii", "latin1", "latin_1", "iso_8859_1", "iso8859_1"]

/-- Whether a name has to be looked up. -/
def isLookedUp (name : Text) : Bool :=
  let n := normalize name
  !directNames.any fun known => n == Text.ofString known

/-- The encoding with a given name, if it is one of the three; all other names are unknown, those of
further standard encodings included. -/
def ofName? (name : Text) : Option Encoding :=
  let n := normalize name
  [utf8, ascii, latin1].find? fun e => e.names.any fun known => n == Text.ofString known

end Encoding

/-- What to do about bytes that stand for no text. -/
inductive Treatment where
  /-- They are an error. -/
  | refuse
  /-- Each span of them becomes a replacement character. -/
  | replace
  /-- They are left out. -/
  | ignore
  /-- Each of them is written as a hexadecimal escape. -/
  | escape
  /-- Each of them becomes a surrogate that stands alone. -/
  | carry
  /-- Three bytes that would be a surrogate become it; others are an error. -/
  | surrogates
  deriving DecidableEq

namespace Treatment

/-- Why a name stands for no treatment. -/
inductive Unusable where
  /-- The name is not known. -/
  | unknown (name : Text)
  /-- The treatment is not meant for bytes. -/
  | unsuited
  deriving DecidableEq

/-- The wording for each cause. -/
def Unusable.message : Unusable → Text
  | .unknown name => Text.ofString "unknown error handler name '" ++ name ++ Text.ofString "'"
  | .unsuited => "don't know how to handle UnicodeDecodeError in error callback"

/-- The treatments and their names. -/
def names : List (String × Treatment) :=
  [("strict", refuse), ("replace", replace), ("ignore", ignore), ("backslashreplace", escape),
    ("surrogateescape", carry), ("surrogatepass", surrogates)]

/-- The names of treatments that serve another purpose. -/
def otherNames : List String := ["xmlcharrefreplace", "namereplace"]

/-- The treatment with a given name. -/
def ofName (name : Text) : Except Unusable Treatment :=
  match names.find? fun (n, _) => name == Text.ofString n with
  | some (_, t) => .ok t
  | none =>
    .error (if otherNames.any fun n => name == Text.ofString n then .unsuited else .unknown name)

end Treatment

end LineSift
