/-
# A run of the program

A run scans the sources, assembles a model and writes it to one file. The file is written last, so
that nothing is written if anything before it fails.
-/
import JavaUml.Assembly
import JavaUml.CommandLine.Options
import JavaUml.Java.Sources

namespace JavaUml.CommandLine

/-- The name of the program. -/
def programName : String := "umlgen"

/-- The version of the program. -/
def programVersion : String := "0.1.0"

/-- The name of the file that is written if no other is given. -/
def defaultFileName : String := "uml.mdj"

/-- Where the document is written. In a directory, or a path that looks like one, it has the default
name. -/
def outputPath (isDirectory : String → Bool) : Option String → String
  | none => defaultFileName
  | some path =>
    let last := path.toList.getLast?
    if last == some '/' || last == some '\\' || isDirectory path then
      Path.join path defaultFileName
    else path

/-- Where the sources are. -/
def Options.sourcePath (options : Options) : String := options.source.getD "."

/-- What is chosen about the model. -/
def Options.config (options : Options) : AssemblyConfig :=
  { seed := options.seed.getD defaultSeed
    project := options.project
    reporting := options.reporting }

/-- Why a run fails. -/
inductive RunError
  | scan (e : Java.ScanError)
  | model (e : ModelError)
  | write (path : String) (e : FileError)
deriving DecidableEq, Repr

/-- The message about a file that cannot be written. -/
def writeMessage (path reason : String) : String :=
  "Failed to write output file: " ++ path ++ ": " ++ reason

/-- The message of an error. -/
def RunError.message : RunError → String
  | scan e => e.message
  | model e => e.message
  | write path e => writeMessage path e.message

/-- A document that is ready to be written. -/
structure Writing where
  path : String
  text : String
  /-- The number of nodes in the document. -/
  size : Nat
deriving DecidableEq, Repr

/-- A run up to the point where the file is written: the lines that it has printed, and what is to
be written. -/
structure Plan where
  lines : List String
  writing : Except RunError Writing

/-- Lines that are printed only if asked for. -/
def Options.remark (options : Options) (line : String) : List String :=
  if options.verbose then [line] else []

/-- The first line of a run. -/
def Options.greeting (options : Options) : List String :=
  options.remark (programName ++ " v" ++ programVersion)

/-- The line after the sources have been scanned. -/
def Options.foundLines (options : Options) (ds : List Declaration) : List String :=
  options.remark
    ("Found " ++ toString ds.length ++ " declarations under " ++ options.sourcePath)

/-- The line after the file has been written. -/
def Options.doneLines (options : Options) (w : Writing) : List String :=
  options.remark ("Wrote " ++ toString w.size ++ " elements to " ++ w.path)

/-- The lines about relationships that were dropped. -/
def warningLines (us : List UnresolvedRelationship) : List String :=
  us.map fun u => "warning: " ++ u.text

/-- A run from the sources at the source path up to the point where the file is written to a
path. -/
def plan (options : Options) (path : String) (sources? : Option FileTree) : Plan :=
  match Java.scanTree options.sourcePath sources? with
  | .error e => ⟨options.greeting, .error (.scan e)⟩
  | .ok ds =>
    let lines := options.greeting ++ options.foundLines ds
    match assemble options.config ds with
    | .error e => ⟨lines, .error (.model e)⟩
    | .ok a =>
      let writing : Writing := ⟨path, a.document.text (!options.compact), a.document.size⟩
      ⟨lines ++ warningLines a.diagnostics, .ok writing⟩

/-- What a run has done: the lines that it has printed, whether it has failed, and the files after
it. -/
structure Outcome where
  lines : List String
  result : Except RunError Unit
  files : FileSystem

/-- A run on a file system. -/
def run (options : Options) (files : FileSystem) : Outcome :=
  let path := outputPath files.isDirectory options.output
  let p := plan options path (files.entry? options.sourcePath)
  match p.writing with
  | .error e => ⟨p.lines, .error e, files⟩
  | .ok w =>
    match files.write w.path w.text.toUTF8 with
    | .error e => ⟨p.lines, .error (.write w.path e), files⟩
    | .ok files => ⟨p.lines ++ options.doneLines w, .ok (), files⟩

end JavaUml.CommandLine
