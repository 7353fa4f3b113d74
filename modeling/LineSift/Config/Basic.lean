import LineSift.Assoc
import LineSift.Config.Error
import LineSift.Text.Case
import LineSift.Text.Number
import LineSift.Text.Replace

/-!
# Configurations

A configuration has sections of options.  The options of the default section hold in all sections
that do not have them.  The names of options are in lower case.
-/

namespace LineSift

/-- Sections of options. -/
structure Config where
  sections : Assoc (Assoc Text) := []
  /-- The options of the default section. -/
  defaults : Assoc Text := []
  deriving DecidableEq

namespace Config

/-- The name of the default section. -/
def defaultSection : Text := "DEFAULT"

/-- The options of a section by itself. -/
def own? (c : Config) (sec : Text) : Option (Assoc Text) :=
  if sec = defaultSection then some c.defaults else c.sections.get? sec

/-- The value of an option. -/
def value (c : Config) (sec name : Text) : Except Error Text :=
  match c.own? sec with
  | none => .error (.noSection sec)
  | some options =>
    match (options.get? name.lower).or (c.defaults.get? name.lower) with
    | some v => .ok v
    | none => .error (.noOption name.lower sec)

/-- Whether an option has a value in a section. -/
def has (c : Config) (sec name : Text) : Bool := (c.value sec name).isOk

/-- The names of the options of a section: its own ones first, and then those of the default section
that it does not have. -/
def optionNames (c : Config) (sec : Text) : List Text :=
  let options := (c.own? sec).getD []
  options.keys ++ c.defaults.keys.filter fun name => !options.has name

/-- The options of a section with their values. -/
def options (c : Config) (sec : Text) : Assoc Text :=
  (c.optionNames sec).filterMap fun name => (c.value sec name).toOption.map (name, ·)

/-- Gives an option a value; a section that is not there is added at the end. -/
def put (c : Config) (sec name value : Text) : Config :=
  { c with sections := c.sections.put sec (((c.sections.get? sec).getD []).put name.lower value) }

/-- The options of one configuration, and those of another one that it does not have. -/
def withDefaults (c packaged : Config) : Config :=
  packaged.sections.foldl (fun c (sec, options) =>
    options.foldl (fun c (name, value) =>
      if c.has sec name then c else c.put sec name value) c) c

/-- The parts of an option between separators; empty parts do not count. -/
def listOf (separator value : Text) : Except Error (List Text) :=
  if value.strip = [] then .ok []
  else if separator = [] then .error .emptySeparator
  else .ok (((value.splitOn separator).map Text.strip).filter (· ≠ []))

/-- The value of an option as a list. -/
def listValue (c : Config) (sec name : Text) (separator : Text := [.char ',']) :
    Except Error (List Text) :=
  (c.value sec name).bind (listOf separator)

/-- The greatest number of digits of an integer. -/
def maxDigits : Nat := 4300

/-- How much of a value is told when it is no integer. -/
def maxShown : Nat := 200

/-- A value as an integer. -/
def integerOf (value : Text) : Except Error Int :=
  match value.readInt? with
  | none => .error (.notInteger (value.shown.take maxShown))
  | some n => if maxDigits < value.digitCount then .error (.hugeNumeral value.digitCount) else .ok n

/-- The value of an option as an integer. -/
def intValue (c : Config) (sec name : Text) : Except Error Int :=
  (c.value sec name).bind integerOf

/-- The words for a truth value, in lower case. -/
def words (b : Bool) : List Text :=
  (if b then ["1", "yes", "true", "on"] else ["0", "no", "false", "off"]).map Text.ofString

/-- A value as a truth value. -/
def truthOf (value : Text) : Except Error Bool :=
  if value.lower ∈ words true then .ok true
  else if value.lower ∈ words false then .ok false
  else .error (.notTruth value)

/-- The value of an option as a truth value. -/
def truthValue (c : Config) (sec name : Text) : Except Error Bool :=
  (c.value sec name).bind truthOf

end Config

end LineSift
