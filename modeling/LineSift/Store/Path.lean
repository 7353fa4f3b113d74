import LineSift.Text.Replace

/-!
# Paths

A path is a text with slashes between its names.  The functions here look at the text alone and at
no directory: two dots take back the name before them.
-/

namespace LineSift.Store

/-- The slash between names. -/
def slash : CodePoint := .char '/'

/-- The names of a path, with empty ones where slashes are neighbours or stand at an end. -/
def nameList (path : Text) : List Text := path.splitOn [slash]

/-- A path that begins in a directory. -/
def joinPath (directory path : Text) : Text :=
  if path.head? = some slash then path
  else if directory = [] ∨ directory.getLast? = some slash then directory ++ path
  else directory ++ slash :: path

/-- A path without the slashes at its end. -/
def trimSlashes (path : Text) : Text := (path.reverse.dropWhile (· == slash)).reverse

/-- The directory of a path and the name in it. -/
def splitPath (path : Text) : Text × Text :=
  let name := (path.reverse.takeWhile (· != slash)).reverse
  let head := path.take (path.length - name.length)
  (if head.all (· == slash) then head else trimSlashes head, name)

/-- Adds a name to the names of an absolute path. -/
def stepName (names : List Text) (name : Text) : List Text :=
  if name = [] ∨ name = "." then names
  else if name = ".." then names.dropLast
  else names ++ [name]

/-- An absolute path without empty names and dots.  Two slashes at its beginning are kept if there
are no more, and nothing is kept from a zero on. -/
def normalPath (path : Text) : Text :=
  let slashes := (path.takeWhile (· == slash)).length
  let names := (nameList path).foldl stepName []
  (List.replicate (if slashes = 2 then 2 else 1) slash ++ Text.join [slash] names).takeWhile
    (· != .char '\x00')

/-- The absolute path of a path that begins in a working directory. -/
def absolutePath (working path : Text) : Text := normalPath (joinPath working path)

end LineSift.Store
