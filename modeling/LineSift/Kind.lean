/-!
# Kinds of failure

Each part of the library has its own causes of failure.  They fall into kinds, and the kind decides
who reports a failure: reading rules names its source for the kinds that concern the rules, and the
command line ends with a message for the kinds that a user can bring about.
-/

namespace LineSift

/-- What kind of thing went wrong. -/
inductive Kind where
  /-- A quoted value, a header or a field is not well-formed. -/
  | parsing
  /-- Rules cannot be turned into patterns. -/
  | compiling
  /-- A sample is not matched. -/
  | validation
  /-- The receiver of a batch failed. -/
  | handler
  /-- There is nothing to do. -/
  | noTarget
  /-- A pattern is malformed. -/
  | pattern
  /-- A value is not one of those that are allowed. -/
  | badValue
  /-- A value has the wrong type. -/
  | badType
  /-- A number is beyond the range of machine integers. -/
  | overflow
  /-- An encoding or a way to treat undecodable bytes is not known. -/
  | lookup
  /-- Bytes cannot be decoded. -/
  | decoding
  /-- A text is not JSON. -/
  | json
  /-- The receiver of a batch failed for a reason of its own. -/
  | foreign
  /-- The system refuses an operation. -/
  | system
  /-- A path does not exist. -/
  | notFound
  /-- A path exists already. -/
  | alreadyThere
  /-- A path is a directory. -/
  | isDirectory
  /-- A part of a path is no directory. -/
  | notDirectory
  /-- Nobody reads the output. -/
  | brokenPipe
  /-- A configuration has options before its first section. -/
  | noHeader
  /-- A configuration has lines that are no options. -/
  | badLines
  /-- A configuration has a section twice. -/
  | repeatedSection
  /-- A configuration has an option twice. -/
  | repeatedOption
  /-- A section is not there. -/
  | noSection
  /-- An option is not there. -/
  | noOption
  deriving DecidableEq

namespace Kind

/-- Whether a failure is put down to the rules that are being read, and is told with their name. -/
def concernsRules : Kind → Bool
  | .parsing | .compiling | .validation => true
  | _ => false

/-- Whether the system refused an operation. -/
def isSystem : Kind → Bool
  | .system | .notFound | .alreadyThere | .isDirectory | .notDirectory | .brokenPipe => true
  | _ => false

/-- Whether the command line ends with a message for such a failure.  The others are not foreseen
there. -/
def isReported : Kind → Bool
  | .pattern | .badType | .overflow | .lookup | .foreign => false
  | _ => true

end Kind

end LineSift
