import LineSift.Encoding.Decode
import LineSift.Field
import LineSift.Kind
import LineSift.Text.Quoted

/-!
# What can be wrong with a configuration
-/

namespace LineSift.Config

open Text (ofString)

/-- Why a configuration cannot be used. -/
inductive Error where
  /-- An option stands before the first section. -/
  | noHeader (file : Text) (number : Nat) (line : Text)
  /-- Lines are neither sections nor options. -/
  | badLines (file : Text) (lines : List (Nat × Text))
  | repeatedSection (sec file : Text) (number : Nat)
  | repeatedOption (name sec file : Text) (number : Nat)
  | noSection (sec : Text)
  | noOption (name sec : Text)
  /-- There is no such file. -/
  | notFound (path : Text)
  /-- A file cannot be read. -/
  | unreadable (path : Text)
  /-- A file is not text, or not named by one. -/
  | undecodable (e : Encoding.Error)
  | zeroByte
  | notInteger (shown : Text)
  | hugeNumeral (digits : Nat)
  | notTruth (value : Text)
  | emptySeparator
  /-- A global field cannot be made. -/
  | field (e : Field.Error)
  /-- A sample of a global field is not matched. -/
  | fieldSample (bad : Field.BadSample)
  deriving DecidableEq

namespace Error

/-- The kind of each cause. -/
def kind : Error → Kind
  | .noHeader .. => .noHeader
  | .badLines .. => .badLines
  | .repeatedSection .. => .repeatedSection
  | .repeatedOption .. => .repeatedOption
  | .noSection _ => .noSection
  | .noOption .. => .noOption
  | .notFound _ | .unreadable _ => .system
  | .undecodable e => e.kind
  | .zeroByte | .notInteger _ | .hugeNumeral _ | .notTruth _ | .emptySeparator => .badValue
  | .field e => e.kind
  | .fieldSample _ => .validation

/-- A line number of at least two places. -/
def place (number : Nat) : Text :=
  let n := Text.decimal number
  ofString "[line " ++ List.replicate (2 - n.length) (.char ' ') ++ n ++ ofString "]"

/-- The place of a repetition. -/
def reading (file : Text) (number : Nat) : Text :=
  ofString "While reading from " ++ file.shown ++ ofString " " ++ place number ++ ofString ": "

/-- The wording of each cause. -/
def message : Error → Text
  | .noHeader file number line =>
    ofString "File contains no section headers.\nfile: " ++ file.shown ++ ofString ", line: " ++
      Text.decimal number ++ ofString "\n" ++ line.shown
  | .badLines file lines =>
    ofString "Source contains parsing errors: " ++ file.shown ++
      lines.flatMap fun (number, line) =>
        ofString "\n\t" ++ place number ++ ofString ": " ++ line.shown
  | .repeatedSection sec file number =>
    reading file number ++ ofString "section " ++ sec.shown ++ ofString " already exists"
  | .repeatedOption name sec file number =>
    reading file number ++ ofString "option " ++ name.shown ++ ofString " in section " ++
      sec.shown ++ ofString " already exists"
  | .noSection sec => ofString "No section: " ++ sec.shown
  | .noOption name sec =>
    ofString "No option " ++ name.shown ++ ofString " in section: " ++ sec.shown
  | .notFound path => path ++ ofString " not found"
  | .unreadable path => ofString "config load error (" ++ path ++ ofString ")"
  | .undecodable e => e.message
  | .zeroByte => "embedded null byte"
  | .notInteger shown => ofString "invalid literal for int() with base 10: " ++ shown
  | .hugeNumeral digits =>
    ofString "Exceeds the limit (4300 digits) for integer string conversion: value has " ++
      Text.decimal digits ++
      ofString " digits; use sys.set_int_max_str_digits() to increase the limit"
  | .notTruth value => ofString "Not a boolean: " ++ value
  | .emptySeparator => "empty separator"
  | .field e => e.message
  | .fieldSample bad => bad.message

end Error

end LineSift.Config
