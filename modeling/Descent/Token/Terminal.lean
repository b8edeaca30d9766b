import Descent.Parser.Combinators

set_option autoImplicit false

namespace Descent.Terminal

variable {β : Type} {a : Ty}

open Descent.Parser (rename)

def ofKind (kind : WordKind) (f : Lexeme → String → a.Value β) : Parser β a :=
  .token fun l => (l.token.wordText? kind).map (f l)

def word (f : Lexeme → String → a.Value β) : Parser β a := rename "word" (ofKind .word f)

def integer (f : Lexeme → String → a.Value β) : Parser β a := rename "integer" (ofKind .integer f)

def decimal (f : Lexeme → String → a.Value β) : Parser β a := rename "decimal" (ofKind .decimal f)

def char (f : Lexeme → Char → a.Value β) : Parser β a :=
  rename "char" (.token fun l =>
    match l.token with
    | .char c => some (f l c)
    | _ => none)

def string (f : Lexeme → String → a.Value β) : Parser β a :=
  rename "string" (.token fun l =>
    match l.token with
    | .string s => some (f l s)
    | _ => none)

def long (f : Lexeme → Int → a.Value β) : Parser β a :=
  rename "long" (.token fun l =>
    match l.token with
    | .long n => some (f l n)
    | _ => none)

def quoted (f : Lexeme → String → String → String → a.Value β) : Parser β a :=
  rename "quoted" (.token fun l =>
    match l.token with
    | .quoted opening body closing => some (f l opening body closing)
    | _ => none)

end Descent.Terminal
