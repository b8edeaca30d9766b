import Descent.Parser.State
import Descent.Pattern.Basic
import Descent.Token.Reader

set_option autoImplicit false

namespace Descent

inductive Recovery (α : Type) where
  | value (v : α)
  | resume
  | propagate (left : Option α)

structure Handling (β : Type) (α : Type) where
  recovery : Recovery α
  notes : List (Note β) := []

structure TraceEvent (β : Type) (a : Ty) where
  reply : Reply β a
  source : List Char
  index : Nat
  steps : Nat
  offset : Nat

/-- Which success an alternation keeps that runs all its branches. -/
inductive Preference where
  | longest
  | shortest
  deriving DecidableEq, Repr

def Preference.prefers : Preference → Nat → Nat → Bool
  | longest, new, old => decide (old < new)
  | shortest, new, old => decide (new < old)

inductive Parser (β : Type) : Ty → Type where
  | ret {a : Ty} (v : a.Value β) : Parser β a
  | reject {a : Ty} (why : Rejection) : Parser β a
  | raise {a : Ty} (key : Key) : Parser β a
  | abort {a : Ty} (message : String) : Parser β a
  | fault {a : Ty} (message : String) : Parser β a
  | getIndex : Parser β .nat
  | eof (label : String) : Parser β .unit
  | token {a : Ty} (f : Lexeme → Option (a.Value β)) : Parser β a
  | char {a : Ty} (k : CharClass) (f : Char → a.Value β) : Parser β a
  | pattern (p : Pattern) (label : String) : Parser β .unit
  | matched {a : Ty} (p : Parser β a) : Parser β .text
  | bind {a b : Ty} (p : Parser β a) (f : a.Value β → Parser β b) : Parser β b
  | atomize {a : Ty} (p : Parser β a) : Parser β a
  | lookahead {a : Ty} (n : Nat) (p : Parser β a) : Parser β a
  | stepBy {a : Ty} (n : Nat) (p : Parser β a) : Parser β a
  | peek {a : Ty} (p : Parser β a) : Parser β a
  | label {a : Ty} (l : String) (p : Parser β a) : Parser β a
  | isConsumed {a : Ty} (message : String) (p : Parser β a) : Parser β a
  | notConsumed {a : Ty} (message : String) (p : Parser β a) : Parser β a
  | test {a : Ty} (check : a.Value β → Bool) (label : Option String) (p : Parser β a) : Parser β a
  | ifElse {a b : Ty} (p : Parser β a) (yes : a.Value β → Parser β b) (no : Parser β b) : Parser β b
  | tryCatch {a : Ty} (p : Parser β a)
      (handler : Option (a.Value β) → Key → Handling β (a.Value β))
      (resume : Option (a.Value β) → Key → Parser β a) : Parser β a
  | tryMap {a b : Ty} (f : a.Value β → Except UserError (b.Value β)) (p : Parser β a) : Parser β b
  | sum {a : Ty} (n : Nat) (branches : Fin n → Parser β a) : Parser β a
  | favored {a : Ty} (preference : Preference) (n : Nat) (branches : Fin n → Parser β a) :
    Parser β a
  | loop {a b : Ty} (p : Parser β a) (min : Nat) (max : Option Nat)
      (finish : List (a.Value β) → b.Value β) : Parser β b
  | nested (opening closing body : Parser β .unit) : Parser β .unit
  | lex {a : Ty} (scanner : Parser β a) (reader : TokenReader) : Parser β .lexeme
  | parseTokens {a : Ty} (lexer : Parser β (.list .lexeme)) (grammar : Parser β a)
      (eofTitle : String) (render : Token → String) (origin : String) : Parser β a
  | scanChars {a b : Ty} (outer : Parser β a) (inner : Parser β b) (origin : String) : Parser β b
  | traced {a : Ty} (p : Parser β a) (hook : TraceEvent β a → List (Note β)) : Parser β a
  | lazy {a : Ty} (make : Unit → Parser β a) : Parser β a
  | rule (name : String) : Parser β .base
  | named {a : Ty} (name : String) (p : Parser β a) : Parser β a

abbrev Rules (β : Type) := List (String × Parser β .base)

def Rules.missingMessage : String := "parser slot used before it was set"

end Descent
