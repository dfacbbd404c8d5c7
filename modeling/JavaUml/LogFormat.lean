/-
# Log formats

The name of a log format may be written in upper or lower case.
-/

namespace JavaUml

/-- How log lines are written. -/
inductive LogFormat
  | compact
  | pretty
  | json
deriving DecidableEq, Repr

namespace LogFormat

/-- The name of a format. -/
def word : LogFormat → String
  | compact => "compact"
  | pretty => "pretty"
  | json => "json"

/-- All formats. -/
def all : List LogFormat := [compact, pretty, json]

/-- A text that does not name a format. -/
structure Unknown where
  text : String
deriving DecidableEq, Repr

/-- The message about a text that does not name a format. -/
def Unknown.message (e : Unknown) : String := "Unknown log format: " ++ e.text

/-- The format with a name. Only letters from A to Z have a lower case among the letters of the
names. -/
def parse (text : String) : Except Unknown LogFormat :=
  match all.find? fun format => format.word == text.toLower with
  | some format => .ok format
  | none => .error ⟨text⟩

end LogFormat

end JavaUml
