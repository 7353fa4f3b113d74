import LineSift.Config.Basic

/-!
# The configuration that is there from the start
-/

namespace LineSift.Config

open Text (ofString)

/-- Options of a section. -/
def optionList (options : List (String × String)) : Assoc Text :=
  options.map fun (name, value) => (ofString name, ofString value)

/-- The values of options that a user does not give. -/
def packaged : Config where
  sections := [
    ("general", optionList [
      ("logging", ""),
      ("rules_dir", "/etc/logsieve/rules.d"),
      ("state_dir", "/var/lib/logsieve"),
      ("src_path", "")]),
    ("rules", optionList [
      ("duplicate_fields", "warn"),
      ("check_samples", "true")]),
    ("process", optionList [
      ("batch_size", "20"),
      ("encoding", "utf-8"),
      ("encoding_errors", "replace")])]

end LineSift.Config
