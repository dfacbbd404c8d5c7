/-
# Scanning a directory

The sources below a path are the files with the extension `java`, in the order of their names, level
by level. What is hidden is left out, but not the path itself. Sources that are not text, and those
with syntax errors, are passed over.
-/
import JavaUml.FileSystem.Basic
import JavaUml.Java.Scanner

namespace JavaUml.Java

/-- A source file. -/
structure SourceFile where
  path : String
  content : ByteArray

/-! ## Finding sources -/

/-- The extension of sources. -/
def sourceExtension : String := "java"

/-- Puts what was found under the names of a directory in the order of the names. -/
def inOrder (found : List (String × List SourceFile)) : List SourceFile :=
  (found.mergeSort fun a b => decide (a.1 ≤ b.1)).flatMap (·.2)

mutual

/-- The sources at a path and below. -/
def sourcesAt (path : String) : FileTree → List SourceFile
  | .file content =>
    if Path.hasExtension sourceExtension (Path.fileName path) then [⟨path, content⟩] else []
  | .special => []
  | .directory entries => inOrder (sourcesIn path entries)

/-- The sources below each entry of a directory. -/
def sourcesIn (path : String) : List (String × FileTree) → List (String × List SourceFile)
  | [] => []
  | (name, tree) :: entries =>
    if Path.isHidden name then sourcesIn path entries
    else (name, sourcesAt (Path.join path name) tree) :: sourcesIn path entries

end

/-! ## Scanning them -/

/-- Why a directory cannot be scanned. -/
inductive ScanError
  | missingRoot (path : String)
  | malformed (path : String) (e : MalformedAnnotation)
deriving DecidableEq, Repr

/-- The message of an error. -/
def ScanError.message : ScanError → String
  | missingRoot path => "Source path does not exist: " ++ path
  | malformed path e => "Failed to scan " ++ path ++ ": " ++ e.message

/-- The declarations in a file. -/
def SourceFile.declarations (file : SourceFile) : Except ScanError (List Declaration) :=
  match String.fromUTF8? file.content with
  | none => .ok []
  | some source =>
    match scanSource source with
    | .ok declarations? => .ok (declarations?.getD [])
    | .error e => .error (.malformed file.path e)

/-- The declarations in all sources at a path and below, if there is something at the path. -/
def scanTree (path : String) (tree? : Option FileTree) : Except ScanError (List Declaration) :=
  match tree? with
  | none => .error (.missingRoot path)
  | some tree => do return (← (sourcesAt path tree).mapM SourceFile.declarations).flatten

end JavaUml.Java
