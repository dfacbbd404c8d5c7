/-
# The program

The program reads its arguments, looks at the files, and writes the model. What it does with them is
decided in `CommandLine`; here the files are read and written.
-/
import JavaUml.CommandLine.Run

namespace JavaUml.Main

open JavaUml.CommandLine

/-- How the program is called. -/
def usage : String :=
  "Usage: umlgen [OPTIONS] [SOURCE] [OUTPUT]\n\n"
    ++ "  SOURCE  directory of the sources, the current one if it is left out\n"
    ++ "  OUTPUT  file to be written, or a directory for the file uml.mdj\n\n"
    ++ "Options:\n"
    ++ "  --project-name NAME   name of the project\n"
    ++ "  --id-seed SEED        first identifier, decimal or hexadecimal with 0x\n"
    ++ "  --pretty              write indented text, as is done without options\n"
    ++ "  --compact             write text on one line\n"
    ++ "  --report-unresolved   tell the relationships that are dropped\n"
    ++ "  -v, --verbose         tell what is done\n"
    ++ "  --log-level LEVEL     trace, debug, info, warn or error\n"
    ++ "  --log-format FORMAT   compact, pretty or json\n"
    ++ "  -h, --help            show this text\n"
    ++ "  -V, --version         show the version"

/-- What is told about arguments that are not accepted. -/
def usageMessage : UsageError → String
  | .unknownArgument => "unexpected argument"
  | .conflict => "arguments cannot be used together, or more than once"
  | .invalidValue => "a value is missing or not one of those allowed"
  | .invalidSeed text fault => seedMessage text fault
  | .tooManyValues => "a value for something that takes none"
  | .help => usage
  | .version => programName ++ " " ++ programVersion

/-- Reads what is at an entry of a directory. Links are not followed, and what cannot be read is
special. -/
partial def loadEntry (entry : IO.FS.DirEntry) : IO FileTree := do
  try
    match (← entry.path.symlinkMetadata).type with
    | .dir =>
      let entries ← entry.path.readDir
      let trees ← entries.toList.mapM fun e => return (e.fileName, ← loadEntry e)
      return .directory trees
    | .file => return .file (← IO.FS.readBinFile entry.path)
    | _ => return .special
  catch _ => return .special

/-- Reads what is at a path, if there is something. Links on the path to a directory are resolved
here, so that those that are left in the tree are below it. -/
def load (path : String) : IO (Option FileTree) := do
  let entry : IO.FS.DirEntry := ⟨← IO.currentDir, path⟩
  if path.isEmpty || !(← entry.path.pathExists) then return none
  if ← entry.path.isDir then
    let entries ← entry.path.readDir
    let trees ← entries.toList.mapM fun e => return (e.fileName, ← loadEntry e)
    return some (.directory trees)
  return some (← loadEntry entry)

/-- Whether a path leads to a directory. -/
def isDirectory (path : String) : IO Bool := do
  if path.isEmpty then return false
  let entry : IO.FS.DirEntry := ⟨← IO.currentDir, path⟩
  entry.path.isDir

/-- The wording of an error when a file is written. -/
def writeReason : IO.Error → String
  | .noFileOrDirectory .. => FileError.missing.message
  | e => toString e

/-- Prints lines to the error output. -/
def printLines (lines : List String) : IO Unit := lines.forM IO.eprintln

/-- Prints an error and fails. -/
def fail (message : String) : IO UInt32 := do
  IO.eprintln ("Error: " ++ message)
  return 1

/-- A run with options that have been read. -/
def execute (options : Options) : IO UInt32 := do
  let outputIsDirectory ← isDirectory (options.output.getD "")
  let path := outputPath (fun _ => outputIsDirectory) options.output
  let p := plan options path (← load options.sourcePath)
  printLines p.lines
  match p.writing with
  | .error e => fail e.message
  | .ok w =>
    try
      IO.FS.writeBinFile w.path w.text.toUTF8
    catch e => return ← fail (writeMessage w.path (writeReason e))
    printLines (options.doneLines w)
    return 0

end JavaUml.Main

open JavaUml JavaUml.CommandLine in
/-- The program. -/
def main (arguments : List String) : IO UInt32 := do
  match readOptions arguments with
  | .ok options => JavaUml.Main.execute options
  | .error .help => do
    IO.println (JavaUml.Main.usageMessage .help)
    return 0
  | .error .version => do
    IO.println (JavaUml.Main.usageMessage .version)
    return 0
  | .error e => do
    IO.eprintln ("error: " ++ JavaUml.Main.usageMessage e)
    return 2
