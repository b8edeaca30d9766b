import Descent.Proofs.Parser.Combinators
import Descent.Proofs.Parser.Input
import Descent.Proofs.Parser.State

set_option autoImplicit false

namespace Descent

variable {β : Type} {a : Ty}

def Env.overTokens (env : Env) (w : Window) (k : Nat) (ls : List Lexeme) (eofTitle : String)
    (render : Token → String) (origin : String) : Env :=
  .ofTokens
    { source := w.source, lexemes := ls.toArray, endIndex := env.index k
      eofTitle := eofTitle, render := render }
    origin env.positions

namespace Action

variable {env : Env} {w : Window} {s t u : State β} {ls : List Lexeme} {eofTitle origin : String}
  {render : Token → String} {lexer : Action β (.list .lexeme)} {grammar : Action β a}

theorem parseTokens_run (input : env.input = .chars w) (lexed : lexer.run env s = ⟨.ok ls, t⟩) :
    (parseTokens lexer grammar eofTitle render origin).run env s =
      inside grammar (env.overTokens w t.offset ls eofTitle render origin) 0 t := by
  simp only [run, parseTokens] at lexed ⊢
  simp only [lexed, andThen, Env.window, input]
  rfl

end Action

namespace Parser

variable (calls : Calls β) {env : Env} {w : Window} {s t u : State β} {ls : List Lexeme}

def refusing : Parser β .unit := .token fun _ => none

end Parser

end Descent
