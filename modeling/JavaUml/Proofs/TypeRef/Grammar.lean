/-
# The grammar of declared types

A text denotes a type if the rules below derive it: a wildcard, a bounded wildcard, or a name with
type arguments, brackets and an ellipsis, and blanks at the places where the rules have them.  The
rules carry the type that a derivation denotes.

A text can have several derivations, as blanks between two parts can belong to either of them.
-/
import JavaUml.TypeRef.Reader
import Mathlib.Tactic.Common

namespace JavaUml.TypeRef

open JavaUml.Text

/-! ## The rules -/

/-- White space of any length. -/
def IsBlanks (cs : List Char) : Prop := ∀ c ∈ cs, isWhiteSpace c = true

/-- One or more characters of a name. -/
def IsWord (cs : List Char) : Prop := cs ≠ [] ∧ ∀ c ∈ cs, isNameChar c = true

/-- Words with a point between each two. -/
inductive IsName : List Char → Prop
  | word {cs : List Char} : IsWord cs → IsName cs
  | qualified {cs name : List Char} : IsWord cs → IsName name → IsName (cs ++ '.' :: name)

/-- Pairs of brackets, with their number. -/
inductive IsBrackets : List Char → ℕ → Prop
  | none : IsBrackets [] 0
  | pair {a b c brackets : List Char} {n : ℕ} : IsBlanks a → IsBlanks b → IsBlanks c →
      IsBrackets brackets n →
      IsBrackets (a ++ '[' :: (b ++ ']' :: (c ++ brackets))) (n + 1)

/-- An ellipsis or none, with their number. -/
inductive IsEllipsis : List Char → ℕ → Prop
  | none : IsEllipsis [] 0
  | points {a b : List Char} : IsBlanks a → IsBlanks b →
      IsEllipsis (a ++ '.' :: '.' :: '.' :: b) 1

/-- A text that no identifier character begins. -/
def EndsKeyword (cs : List Char) : Prop := ∀ c ∈ cs.head?, isIdentifierContinue c = false

mutual

/-- A type with the blanks around it. Of the bounds of a wildcard the outer one counts. -/
inductive IsType : List Char → TypeRef → Prop
  | unbounded {a b : List Char} : IsBlanks a → IsBlanks b → IsType (a ++ '?' :: b) (named "?")
  | bounded {a b c d inner : List Char} {bound : WildcardBound} {t : TypeRef} :
      IsBlanks a → IsBlanks b → EndsKeyword (c ++ inner) → IsBlanks c → IsType inner t →
      IsBlanks d →
      IsType (a ++ '?' :: (b ++ (bound.keyword.toList ++ (c ++ (inner ++ d)))))
        { t with wildcard := some bound }
  | plain {a name arguments brackets ellipsis b : List Char} {ts : List TypeRef} {m n : ℕ} :
      IsBlanks a → IsName name → IsArguments arguments ts → IsBrackets brackets m →
      IsEllipsis ellipsis n → IsBlanks b →
      IsType (a ++ (name ++ (arguments ++ (brackets ++ (ellipsis ++ b)))))
        ⟨String.ofList name, ts, m + n, none⟩

/-- Type arguments between their brackets, or nothing if there are none. -/
inductive IsArguments : List Char → List TypeRef → Prop
  | none : IsArguments [] []
  | some {first more : List Char} {t : TypeRef} {ts : List TypeRef} :
      IsType first t → AreMore more ts → IsArguments ('<' :: (first ++ (more ++ ['>']))) (t :: ts)

/-- The type arguments after the first one, each behind a comma. -/
inductive AreMore : List Char → List TypeRef → Prop
  | none : AreMore [] []
  | cons {next more : List Char} {t : TypeRef} {ts : List TypeRef} :
      IsType next t → AreMore more ts → AreMore (',' :: (next ++ more)) (t :: ts)

end

end JavaUml.TypeRef
