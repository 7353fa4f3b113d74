import LineSift.Kind
import LineSift.Text.Lines
import LineSift.Text.Quoted

/-!
# What can be wrong with a pattern
-/

namespace LineSift.Regex

open Text (ofString)

/-- Why a pattern is malformed. -/
inductive Problem where
  /-- A backslash ends the pattern. -/
  | escapeAtEnd
  /-- A backslash is followed by something that is no escape. -/
  | badEscape (written : Text)
  /-- A numeric escape has too few digits. -/
  | incompleteEscape (written : Text)
  /-- An octal escape stands for a number above 255. -/
  | octalRange (written : Text)
  /-- A named code point has no name in braces. -/
  | missingBrace
  /-- A name is missing; the argument says what kind of name. -/
  | missingName (kind : Text)
  /-- A name is not ended by its terminator. -/
  | unterminatedName (terminator : CodePoint)
  /-- No code point has this name. -/
  | unknownCharacter (name : Text)
  /-- A group is referred to from inside itself. -/
  | openGroup
  /-- A look-behind refers to a group that it defines. -/
  | groupInLookbehind
  /-- No group has this number. -/
  | noSuchGroup (number : Nat)
  /-- Groups are numbered from one. -/
  | groupZero
  /-- A text cannot be the name of a group. -/
  | badGroupName (name : Text)
  /-- No group before has this name. -/
  | unknownGroupName (name : Text)
  /-- A group name is given twice. -/
  | repeatedGroupName (name : Text) (number first : Nat)
  /-- A set is not closed. -/
  | unterminatedSet
  /-- The ends of a range are in the wrong order, or one of them is a class. -/
  | badRange (lo hi : Text)
  /-- The upper bound of a repetition is below the lower one. -/
  | boundsReversed
  /-- A repetition has nothing before it. -/
  | nothingToRepeat
  /-- A repetition follows a repetition. -/
  | multipleRepeat
  /-- The pattern ends inside a construct. -/
  | unexpectedEnd
  /-- A question mark after a parenthesis is followed by something unknown. -/
  | unknownExtension (written : Text)
  /-- A comment is not closed. -/
  | unterminatedComment
  /-- A group is not closed. -/
  | unterminatedGroup
  /-- A conditional has more than two branches. -/
  | manyBranches
  /-- A parenthesis closes nothing. -/
  | unbalanced
  /-- Flags for the whole pattern stand behind its beginning. -/
  | lateFlags
  /-- The flag for bytes is used on text. -/
  | localeFlag
  /-- Two of the flags that choose a kind of text are given. -/
  | flagKinds
  /-- A letter is no flag. -/
  | unknownFlag
  /-- A list of flags is not continued as it must be; the argument says what may follow. -/
  | missingInFlags (expected : Text)
  /-- A flag that counts for the whole pattern is turned on, or off, for a part. -/
  | globalFlag (on : Bool)
  /-- A flag that chooses a kind of text is turned off. -/
  | kindTurnedOff
  /-- A flag is turned on and off at once. -/
  | onAndOff
  /-- A look-behind does not have one width. -/
  | variableLookbehind
  deriving DecidableEq

/-- The wording of each problem. -/
def Problem.message : Problem → Text
  | .escapeAtEnd => "bad escape (end of pattern)"
  | .badEscape written => ofString "bad escape " ++ written
  | .incompleteEscape written => ofString "incomplete escape " ++ written
  | .octalRange written =>
    ofString "octal escape value " ++ written ++ ofString " outside of range 0-0o377"
  | .missingBrace => "missing \x7b"
  | .missingName kind => ofString "missing " ++ kind
  | .unterminatedName terminator =>
    ofString "missing " ++ [terminator] ++ ofString ", unterminated name"
  | .unknownCharacter name => ofString "undefined character name " ++ name.shown
  | .openGroup => "cannot refer to an open group"
  | .groupInLookbehind => "cannot refer to group defined in the same lookbehind subpattern"
  | .noSuchGroup number => ofString "invalid group reference " ++ Text.decimal number
  | .groupZero => "bad group number"
  | .badGroupName name => ofString "bad character in group name " ++ name.shown
  | .unknownGroupName name => ofString "unknown group name " ++ name.shown
  | .repeatedGroupName name number first =>
    ofString "redefinition of group name " ++ name.shown ++ ofString " as group " ++
      Text.decimal number ++ ofString "; was group " ++ Text.decimal first
  | .unterminatedSet => "unterminated character set"
  | .badRange lo hi => ofString "bad character range " ++ lo ++ ofString "-" ++ hi
  | .boundsReversed => "min repeat greater than max repeat"
  | .nothingToRepeat => "nothing to repeat"
  | .multipleRepeat => "multiple repeat"
  | .unexpectedEnd => "unexpected end of pattern"
  | .unknownExtension written => ofString "unknown extension " ++ written
  | .unterminatedComment => "missing ), unterminated comment"
  | .unterminatedGroup => "missing ), unterminated subpattern"
  | .manyBranches => "conditional backref with more than two branches"
  | .unbalanced => "unbalanced parenthesis"
  | .lateFlags => "global flags not at the start of the expression"
  | .localeFlag => "bad inline flags: cannot use 'L' flag with a str pattern"
  | .flagKinds => "bad inline flags: flags 'a', 'u' and 'L' are incompatible"
  | .unknownFlag => "unknown flag"
  | .missingInFlags expected => ofString "missing " ++ expected
  | .globalFlag true => "bad inline flags: cannot turn on global flag"
  | .globalFlag false => "bad inline flags: cannot turn off global flag"
  | .kindTurnedOff => "bad inline flags: cannot turn off flags 'a', 'u' and 'L'"
  | .onAndOff => "bad inline flags: flag turned on and off"
  | .variableLookbehind => "look-behind requires fixed-width pattern"

/-- Why a pattern cannot be compiled.  Only the first cause is a matter of its grammar. -/
inductive Error where
  /-- The pattern is malformed, at a position if there is one. -/
  | malformed (problem : Problem) (pos : Option Nat)
  /-- A bound of a repetition is too large. -/
  | hugeRepeat
  /-- A hexadecimal escape stands for a number above the range of machine integers. -/
  | hugeCodePoint
  /-- A numeral has more digits than are read. -/
  | hugeNumeral (digits : Nat)
  /-- The flags for the whole pattern ask for ASCII and for all of Unicode. -/
  | flagClash
  deriving DecidableEq

/-- A place in a pattern, with line and column if it has more than one line. -/
def placeIn (pattern : Text) (pos : Nat) : Text :=
  ofString " at position " ++ Text.decimal pos ++
    if .char '\n' ∈ pattern then
      ofString " (line " ++ Text.decimal (pattern.lineAt pos) ++ ofString ", column " ++
        Text.decimal (pattern.columnAt pos) ++ ofString ")"
    else []

/-- The wording of an error in a pattern. -/
def Error.message (pattern : Text) : Error → Text
  | .malformed problem none => problem.message
  | .malformed problem (some pos) => problem.message ++ placeIn pattern pos
  | .hugeRepeat => "the repetition number is too large"
  | .hugeCodePoint => "Python int too large to convert to C int"
  | .hugeNumeral digits =>
    ofString "Exceeds the limit (4300 digits) for integer string conversion: value has " ++
      Text.decimal digits ++
      ofString " digits; use sys.set_int_max_str_digits() to increase the limit"
  | .flagClash => "ASCII and UNICODE flags are incompatible"

/-- The kind of each cause. -/
def Error.kind : Error → Kind
  | .malformed _ _ => .pattern
  | .hugeRepeat | .hugeCodePoint => .overflow
  | .hugeNumeral _ | .flagClash => .badValue

end LineSift.Regex
