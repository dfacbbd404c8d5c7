/-
# Options

The arguments of the program are read from left to right. An option takes its value behind an equals
sign or from the next argument; what does not start with a dash is the source or the output. The
value of an option or position is checked when the next one begins, and at the end.
-/
import JavaUml.Document.Ids
import JavaUml.LogFormat
import JavaUml.Text.Digits

namespace JavaUml.CommandLine

/-! ## Options -/

/-- How much is logged. -/
inductive LogLevel
  | trace
  | debug
  | info
  | warn
  | error
deriving DecidableEq, Repr

/-- The name of a level. -/
def LogLevel.word : LogLevel → String
  | trace => "trace"
  | debug => "debug"
  | info => "info"
  | warn => "warn"
  | error => "error"

/-- All levels. -/
def LogLevel.all : List LogLevel := [trace, debug, info, warn, error]

/-- What the arguments ask for. -/
structure Options where
  source : Option String := none
  output : Option String := none
  project : String := "projectName"
  seed : Option UInt64 := none
  pretty : Bool := false
  compact : Bool := false
  reporting : Bool := false
  verbose : Bool := false
  logLevel : LogLevel := .info
  logFormat : LogFormat := .compact
deriving DecidableEq, Repr

/-! ## Seeds -/

/-- Why a text is not a number. -/
inductive NumberFault
  | empty
  | invalidDigit
  | tooLarge
deriving DecidableEq, Repr

/-- The wording of a fault. -/
def NumberFault.reason : NumberFault → String
  | empty => "cannot parse integer from empty string"
  | invalidDigit => "invalid digit found in string"
  | tooLarge => "number too large to fit in target type"

/-- Reads digits behind a value of earlier digits. The first digit that is wrong or makes the number
too large is the fault. -/
def readDigits (base value : Nat) : List Char → Except NumberFault Nat
  | [] => .ok value
  | c :: cs =>
    match Text.digitValue? base c with
    | none => .error .invalidDigit
    | some d =>
      if value * base + d < UInt64.size then readDigits base (value * base + d) cs
      else .error .tooLarge

/-- Reads a number in a base, before which a plus sign may stand. -/
def readNumber (base : Nat) : List Char → Except NumberFault Nat
  | [] => .error .empty
  | ['+'] => .error .invalidDigit
  | '+' :: cs => readDigits base 0 cs
  | cs => readDigits base 0 cs

/-- Reads a seed: a decimal number, or a hexadecimal one behind `0x`. -/
def readSeed (text : String) : Except NumberFault UInt64 :=
  let number := match text.toList with
    | '0' :: 'x' :: cs => readNumber 16 cs
    | '0' :: 'X' :: cs => readNumber 16 cs
    | cs => readNumber 10 cs
  number.map UInt64.ofNat

/-! ## Arguments -/

/-- What takes a value. -/
inductive ValueOption
  | source
  | output
  | project
  | seed
  | logLevel
  | logFormat
deriving DecidableEq, Repr

/-- What is switched on by its name alone. -/
inductive Switch
  | pretty
  | compact
  | reporting
  | verbose
  | help
  | version
deriving DecidableEq, Repr

/-- The names of the options with a value. -/
def valueNames : List (String × ValueOption) :=
  [("project-name", .project), ("id-seed", .seed), ("log-level", .logLevel),
    ("log-format", .logFormat)]

/-- The names of the switches. -/
def switchNames : List (String × Switch) :=
  [("pretty", .pretty), ("compact", .compact), ("report-unresolved", .reporting),
    ("verbose", .verbose), ("help", .help), ("version", .version)]

/-- The switches with a name of one letter. -/
def shortNames : List (Char × Switch) := [('v', .verbose), ('h', .help), ('V', .version)]

/-- Why the arguments are not accepted, or that they only ask for help or the version. -/
inductive UsageError
  | unknownArgument
  | conflict
  | invalidValue
  | invalidSeed (text : String) (fault : NumberFault)
  | tooManyValues
  | help
  | version
deriving DecidableEq, Repr

/-- The message about a seed that is not a number. -/
def seedMessage (text : String) (fault : NumberFault) : String :=
  "invalid identifier seed '" ++ text ++ "': " ++ fault.reason

/-- What has been read of the arguments. -/
structure Draft where
  options : Options := {}
  /-- What has been given a value. -/
  valued : List ValueOption := []
  /-- What has been switched on. -/
  switched : List Switch := []

/-- What has been begun, but not checked. -/
inductive Pending
  | nothing
  /-- An option without its value. -/
  | option (o : ValueOption)
  | value (o : ValueOption) (text : String)

/-- The state of reading arguments. -/
structure State where
  draft : Draft := {}
  pending : Pending := .nothing
  /-- How many positions have been filled. -/
  positions : Nat := 0
  /-- Whether all further arguments are positions. -/
  onlyPositions : Bool := false

/-- Takes one of the words of a list. -/
def oneOf {α : Type} (word : α → String) (all : List α) (text : String) : Except UsageError α :=
  match all.find? fun a => word a == text with
  | some a => .ok a
  | none => .error .invalidValue

/-- A path, which may not be empty. -/
def pathOf (text : String) : Except UsageError String :=
  if text.isEmpty then .error .invalidValue else .ok text

/-- Gives an option its value. -/
def Options.set (options : Options) (text : String) : ValueOption → Except UsageError Options
  | .source => return { options with source := some (← pathOf text) }
  | .output => return { options with output := some (← pathOf text) }
  | .project => return { options with project := text }
  | .seed =>
    match readSeed text with
    | .ok seed => return { options with seed := some seed }
    | .error fault => throw (.invalidSeed text fault)
  | .logLevel => return { options with logLevel := ← oneOf LogLevel.word LogLevel.all text }
  | .logFormat => return { options with logFormat := ← oneOf LogFormat.word LogFormat.all text }

namespace Draft

/-- Gives an option its value. It may have only one. -/
def set (d : Draft) (o : ValueOption) (text : String) : Except UsageError Draft :=
  if o ∈ d.valued then .error .conflict
  else return { d with options := ← d.options.set text o, valued := o :: d.valued }

/-- Switches something on, but only once. -/
def switchOn (d : Draft) (s : Switch) : Except UsageError Draft :=
  match s with
  | .help => .error .help
  | .version => .error .version
  | s =>
    if s ∈ d.switched then .error .conflict
    else
      let options := match s with
        | .pretty => { d.options with pretty := true }
        | .compact => { d.options with compact := true }
        | .reporting => { d.options with reporting := true }
        | .verbose => { d.options with verbose := true }
        | .help | .version => d.options
      .ok { d with options, switched := s :: d.switched }

end Draft

namespace State

/-- Checks what has been begun. -/
def settle (s : State) : Except UsageError State :=
  match s.pending with
  | .nothing => .ok s
  | .option _ => .error .invalidValue
  | .value o text => return { s with draft := ← s.draft.set o text, pending := .nothing }

/-- Switches something on. -/
def switchOn (s : State) (switch : Switch) : Except UsageError State := do
  let s ← s.settle
  return { s with draft := ← s.draft.switchOn switch }

/-- Begins an option. A value behind an equals sign is checked at once. -/
def begin (s : State) (o : ValueOption) (value : Option String) : Except UsageError State := do
  let s ← s.settle
  match value with
  | some text => return { s with draft := ← s.draft.set o text }
  | none => return { s with pending := .option o }

/-- Splits a text at its first equals sign. -/
def splitValue (text : List Char) : String × Option String :=
  let name := String.ofList (text.takeWhile (· != '='))
  match text.dropWhile (· != '=') with
  | _ :: value => (name, some (String.ofList value))
  | [] => (name, none)

/-- Takes an argument with two dashes. -/
def takeLong (s : State) (text : List Char) : Except UsageError State :=
  let (name, value) := splitValue text
  match valueNames.lookup name, switchNames.lookup name, value with
  | some o, _, value => s.begin o value
  | none, some switch, none => s.switchOn switch
  | none, some _, some _ => .error .tooManyValues
  | none, none, _ => .error .unknownArgument

/-- Takes letters behind one dash. -/
def takeShort (s : State) : List Char → Except UsageError State
  | [] => .ok s
  | c :: cs =>
    match shortNames.lookup c with
    | some switch => do takeShort (← s.switchOn switch) cs
    | none => .error .unknownArgument

/-- Takes an argument that fills a position. There are two of them. -/
def takePosition (s : State) (text : String) : Except UsageError State :=
  match [ValueOption.source, .output][s.positions]? with
  | none => .error .unknownArgument
  | some o => do
    let s ← s.settle
    return { s with pending := .value o text, positions := s.positions + 1 }

/-- Takes an argument that does not start with a dash. -/
def takePlain (s : State) (text : String) : Except UsageError State :=
  match s.pending with
  | .option o => .ok { s with pending := .value o text }
  | _ => s.takePosition text

/-- Takes an argument. -/
def take (s : State) (text : String) : Except UsageError State :=
  if s.onlyPositions then s.takePosition text
  else
    match text.toList with
    | ['-', '-'] => .ok { s with onlyPositions := true }
    | '-' :: '-' :: cs => s.takeLong cs
    | '-' :: c :: cs => s.takeShort (c :: cs)
    | _ => s.takePlain text

end State

/-- Reads arguments. Only one layout can be asked for. -/
def readOptions (arguments : List String) : Except UsageError Options := do
  let s ← (← arguments.foldlM State.take {}).settle
  if s.draft.options.pretty && s.draft.options.compact then throw .conflict
  return s.draft.options

end JavaUml.CommandLine
