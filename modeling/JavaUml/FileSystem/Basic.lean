/-
# File systems

A file system is a tree of directories and files with a working directory. Following a path through
it, writing a file and finding out about an entry are what the program needs of one.

Links are not followed in the tree. On a path to a directory that the program is called with, they
are resolved before the tree is read (`Main.load`), so that what they lead to is in their place.
Only links below this directory are left, and they are something special.
-/
import JavaUml.Entries
import JavaUml.FileSystem.Path

namespace JavaUml

/-- What a name in a directory leads to. -/
inductive FileTree
  | file (content : ByteArray)
  /-- Something that is neither a file nor a directory, such as a device, or a link that is met
  below the source path. -/
  | special
  | directory (entries : List (String × FileTree))

namespace FileTree

/-- What names in order lead to. -/
def at? : FileTree → List String → Option FileTree
  | tree, [] => some tree
  | .directory entries, name :: names => (entries.lookup name).bind (·.at? names)
  | _, _ :: _ => none

/-- Whether this is a directory. -/
def isDirectory : FileTree → Bool
  | directory _ => true
  | _ => false

/-- Puts something where names in order lead. Directories on the way are made if they are not
there. -/
def insert (leaf : FileTree) : List String → FileTree → FileTree
  | [], _ => leaf
  | name :: names, directory entries =>
    let old := (entries.lookup name).getD (directory [])
    directory (Entries.set name (insert leaf names old) entries)
  | name :: names, _ => directory [(name, insert leaf names (directory []))]

end FileTree

/-- Why a path cannot be followed or a file cannot be written. -/
inductive FileError
  | missing
  | notDirectory
  | isDirectory
deriving DecidableEq, Repr

/-- The message of an error. -/
def FileError.message : FileError → String
  | missing => "No such file or directory (os error 2)"
  | notDirectory => "Not a directory (os error 20)"
  | isDirectory => "Is a directory (os error 21)"

/-- A file system. The working directory is given by the names that lead there from the root. -/
structure FileSystem where
  root : FileTree
  workingDirectory : List String

namespace FileSystem

/-- Follows names from a place. Each of them, even an empty one, is looked up in a directory. -/
def follow (root : FileTree) (place : List String) : List String → Except FileError (List String)
  | [] => .ok place
  | name :: names =>
    match root.at? place with
    | none => .error .missing
    | some tree =>
      if !tree.isDirectory then .error .notDirectory
      else if name = "" ∨ name = "." then follow root place names
      else if name = ".." then follow root place.dropLast names
      else if (root.at? (place ++ [name])).isSome then follow root (place ++ [name]) names
      else .error .missing

/-- Where a path starts. -/
def start (fs : FileSystem) (path : String) : List String :=
  if Path.isAbsolute path then [] else fs.workingDirectory

/-- What a path leads to. -/
def entry (fs : FileSystem) (path : String) : Except FileError FileTree :=
  if path = "" then .error .missing
  else do
    let place ← follow fs.root (fs.start path) (Path.names path)
    match fs.root.at? place with
    | some tree => .ok tree
    | none => .error .missing

/-- What a path leads to, if anything. -/
def entry? (fs : FileSystem) (path : String) : Option FileTree := (fs.entry path).toOption

/-- Whether a path leads to a directory. -/
def isDirectory (fs : FileSystem) (path : String) : Bool :=
  (fs.entry? path).any FileTree.isDirectory

/-- Writes a file in a directory. What is written to something special does not stay. -/
def writeIn (fs : FileSystem) (place : List String) (name : String) (content : ByteArray) :
    Except FileError FileSystem :=
  if name = "" ∨ name = "." ∨ name = ".." then .error .isDirectory
  else
    match fs.root.at? (place ++ [name]) with
    | some (.directory _) => .error .isDirectory
    | some .special => .ok fs
    | _ => .ok { fs with root := FileTree.insert (.file content) (place ++ [name]) fs.root }

/-- Writes a file. It is made if it is not there, but the directory must be there. -/
def write (fs : FileSystem) (path : String) (content : ByteArray) :
    Except FileError FileSystem :=
  if path = "" then .error .missing
  else do
    let names := Path.names path
    let place ← follow fs.root (fs.start path) names.dropLast
    match fs.root.at? place with
    | some (.directory _) => fs.writeIn place (names.getLastD "") content
    | some _ => .error .notDirectory
    | none => .error .missing

end FileSystem

end JavaUml
