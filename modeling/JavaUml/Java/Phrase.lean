/-
# Phrases

A grammar gives a phrase for each of its rules. Phrases are put together from tokens and rules in
order; of two alternatives the first one that fits is taken, and a repetition goes on as long as it
can. What a phrase matches is returned as trees, one for each token and each rule.
-/
import JavaUml.Java.Token

namespace JavaUml.Java

/-- A test of a token. -/
inductive TokenTest
  | kind (k : TokenKind)
  | word (w : String)
  | symbol (s : String)
  /-- A symbol right behind the token before it. -/
  | gluedSymbol (s : String)
  /-- A word right behind the token before it. -/
  | gluedWord (w : String)
deriving DecidableEq, Repr

/-- Whether a token passes a test. -/
def TokenTest.accepts : TokenTest → Token → Bool
  | kind k, t => t.kind == k
  | word w, t => t.kind == .word && t.text == w
  | symbol s, t => t.kind == .symbol && t.text == s
  | gluedSymbol s, t => t.kind == .symbol && t.text == s && t.gap.isEmpty
  | gluedWord w, t => t.kind == .word && t.text == w && t.gap.isEmpty

/-- A phrase over rules. -/
inductive Phrase (ρ : Type)
  /-- Nothing. -/
  | empty
  /-- A token. -/
  | token (test : TokenTest)
  /-- Nothing, where the next token is not one of some words. -/
  | unless (words : List String)
  /-- What a rule matches. -/
  | rule (r : ρ)
  /-- One phrase after the other. -/
  | append (p q : Phrase ρ)
  /-- The first phrase or, if it does not fit, the second. -/
  | orElse (p q : Phrase ρ)
  /-- A phrase as often as it fits. -/
  | many (p : Phrase ρ)
deriving Repr

/-- What a phrase matches. -/
inductive Tree (ρ : Type)
  | leaf (t : Token)
  | node (r : ρ) (children : List (Tree ρ))
deriving Repr

/-! ## Phrases from phrases -/

namespace Phrase

variable {ρ : Type}

/-- A phrase that does not have to be there. -/
def optional (p : Phrase ρ) : Phrase ρ := .orElse p .empty

/-- Phrases in order. -/
def sequence : List (Phrase ρ) → Phrase ρ
  | [] => .empty
  | [p] => p
  | p :: q :: ps => .append p (sequence (q :: ps))

/-- The first of some phrases that fits. -/
def choice : Phrase ρ → List (Phrase ρ) → Phrase ρ
  | p, [] => p
  | p, q :: ps => .orElse p (choice q ps)

/-- A phrase once or more. -/
def repeated (p : Phrase ρ) : Phrase ρ := .append p (.many p)

/-- A phrase once or more, with a separator in between. -/
def separated (separator p : Phrase ρ) : Phrase ρ := .append p (.many (.append separator p))

end Phrase

/-! ## Matching -/

/-- Matches a phrase at the front of a source, with a number of levels of rules below it. A
repetition ends when it makes no progress. -/
def Phrase.match? {ρ : Type} (body : ρ → Phrase ρ) (levels : Nat) (p : Phrase ρ)
    (ts : List Token) : Option (List (Tree ρ) × List Token) :=
  match p, levels, ts with
  | .empty, _, ts => some ([], ts)
  | .token test, _, t :: ts => if test.accepts t then some ([.leaf t], ts) else none
  | .token _, _, [] => none
  | .unless words, _, t :: ts =>
    if t.kind == .word && words.contains t.text then none else some ([], t :: ts)
  | .unless _, _, [] => some ([], [])
  | .rule _, 0, _ => none
  | .rule r, levels + 1, ts =>
    match (body r).match? body levels ts with
    | some (children, rest) => some ([.node r children], rest)
    | none => none
  | .append p q, levels, ts =>
    match p.match? body levels ts with
    | some (front, rest) =>
      match q.match? body levels rest with
      | some (back, rest) => some (front ++ back, rest)
      | none => none
    | none => none
  | .orElse p q, levels, ts =>
    match p.match? body levels ts with
    | some result => some result
    | none => q.match? body levels ts
  | .many p, levels, ts =>
    match p.match? body levels ts with
    | some (front, rest) =>
      if rest.length < ts.length then
        match (Phrase.many p).match? body levels rest with
        | some (back, rest) => some (front ++ back, rest)
        | none => none
      else some ([], ts)
    | none => some ([], ts)
termination_by (levels, p, ts.length)

/-! ## Trees -/

namespace Tree

variable {ρ : Type}

mutual

/-- The tokens in a tree. -/
def tokens : Tree ρ → Fragment
  | .leaf t => [t]
  | .node _ children => tokensOfAll children

/-- The tokens in some trees. -/
def tokensOfAll : List (Tree ρ) → Fragment
  | [] => []
  | child :: children => child.tokens ++ tokensOfAll children

end

/-- The source text of a tree. -/
def text (tree : Tree ρ) : String := Fragment.text tree.tokens

end Tree

end JavaUml.Java
