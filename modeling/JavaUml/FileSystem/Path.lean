/-
# Paths

A path is a text with its names separated by slashes. It is kept as it was given; only when it is
followed do empty names and dots lose their meaning.
-/
import JavaUml.Text.Blank

namespace JavaUml.Path

/-- Splits a text at its slashes. There is one part more than slashes. -/
def splitSlashes : List Char → List (List Char)
  | [] => [[]]
  | c :: cs => if c = '/' then [] :: splitSlashes cs else Text.extendFirst c (splitSlashes cs)

/-- The names in a path, some of them empty. -/
def names (path : String) : List String := (splitSlashes path.toList).map String.ofList

/-- Whether a path starts at the root. -/
def isAbsolute (path : String) : Bool := path.toList.head? == some '/'

/-- The path of a name in a directory. -/
def join (directory name : String) : String :=
  if directory.isEmpty || directory.toList.getLast? == some '/' then directory ++ name
  else directory ++ "/" ++ name

/-- The last name in a path. -/
def fileName (path : String) : String := (names path).getLastD ""

/-- Whether a file with this name has an extension. A dot at the very beginning of a name does not
start one. -/
def hasExtension (extension name : String) : Bool :=
  let backwards := name.toList.reverse
  let stem := (backwards.dropWhile (· != '.')).drop 1
  !stem.isEmpty && String.ofList (backwards.takeWhile (· != '.')).reverse == extension

/-- Whether a name is hidden. -/
def isHidden (name : String) : Bool := name.toList.head? == some '.'

end JavaUml.Path
