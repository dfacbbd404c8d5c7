/-
# Faults of a JSON text

A text can fail to be JSON in two ways: it ends where more has to come, or it goes on where it may
not.
-/

namespace JavaUml.Json

/-- Why a text is not JSON. -/
inductive Fault
  /-- A character stands where none of its kind may. -/
  | malformed
  /-- The text ends too early. -/
  | truncated
deriving DecidableEq, Repr

/-- The fault at a place where something is missing, from the text that is left there. -/
def Fault.missing : List Char → Fault
  | [] => .truncated
  | _ :: _ => .malformed

end JavaUml.Json
