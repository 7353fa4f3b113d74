import LineSift.Assoc
import LineSift.Double.Shortest
import LineSift.Text.Quoted

/-!
# JSON values

A record of the position in a file is kept as JSON.  Numbers without a fraction and an exponent
are integers of any size.  An object is a table: a name that is given again keeps its first place
and gets the later value.
-/

namespace LineSift

/-- A JSON value. -/
inductive Json where
  | null
  | bool (b : Bool)
  | int (n : Int)
  | float (x : Double)
  | string (t : Text)
  | array (items : List Json)
  | object (members : List (Text × Json))

namespace Json

/-- The member of an object with a given name. -/
def member? (name : Text) : Json → Option Json
  | .object members => Assoc.get? name members
  | _ => none

open Text (ofString)

mutual

/-- A value in messages. -/
def shown : Json → Text
  | .null => "None"
  | .bool b => ofString (if b then "True" else "False")
  | .int n => Text.decimalInt n
  | .float x => x.text
  | .string t => t.shown
  | .array items => ofString "[" ++ shownItems items ++ ofString "]"
  | .object members => ofString "\x7b" ++ shownMembers members ++ ofString "\x7d"

/-- Values in messages, with commas between them. -/
def shownItems : List Json → Text
  | [] => []
  | [v] => shown v
  | v :: vs => shown v ++ ofString ", " ++ shownItems vs

/-- Named values in messages, with commas between them. -/
def shownMembers : List (Text × Json) → Text
  | [] => []
  | [(name, v)] => name.shown ++ ofString ": " ++ shown v
  | (name, v) :: rest =>
    name.shown ++ ofString ": " ++ shown v ++ ofString ", " ++ shownMembers rest

end

end Json

end LineSift
