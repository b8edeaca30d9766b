import Descent.Parser.Eval

set_option autoImplicit false

namespace Descent

variable {β : Type} {a : Ty}

structure Grammar (β : Type) (a : Ty) where
  rules : Rules β := []
  start : Parser β a

structure Parse (β : Type) (a : Ty) where
  result : Except Exception (a.Value β)
  notes : List (Note β)

namespace Failure

def exception (f : Failure β) (env : Env) (s : State β) : Exception :=
  let here := env.index s.offset
  let make (kind : ExceptionKind) (message : Option String) (detail : Option Detail)
      (index : Nat) : Exception :=
    Exception.make kind message detail env.origin (env.positions.position index)
  match f with
  | fail =>
    make .mismatch none (s.error.map Diagnostic.detail)
      (match s.error with
        | some d => d.index
        | none => here)
  | signal sig => make .mismatch (some ("User exception: " ++ sig.key.payload.render)) none here
  | user e => make .user (some e.message) none (e.index.getD here)
  | fault e => e
  | exhausted => make .internal (some "rules call one another without end") none here

end Failure

namespace Outcome

def toParse (o : Outcome β a) (env : Env) : Parse β a where
  result := o.reply.mapError fun f => f.exception env o.state
  notes := o.state.journal.reverse

end Outcome

namespace Grammar

def apply (g : Grammar β a) (env : Env) : Outcome β a :=
  g.start.apply g.rules env (env.stateAt .start)

def parse (g : Grammar β a) (env : Env) : Parse β a := (g.apply env).toParse env

def parseText (g : Grammar β a) (source : List Char) (origin : String) : Parse β a :=
  g.parse (Env.ofText source origin (PositionMap.ofSource source))

def parseTokens (g : Grammar β a) (run : TokenRun) (origin : String) : Parse β a :=
  g.parse (Env.ofTokens run origin (PositionMap.ofSource run.source))

end Grammar

end Descent
