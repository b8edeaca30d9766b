import Descent.Parser.Action

set_option autoImplicit false

namespace Descent

variable {β : Type}

def Parser.eval (calls : Calls β) {a : Ty} : Parser β a → Action β a
  | .ret v => Action.ret v
  | .reject why => Action.reject why
  | .raise key => Action.raise key
  | .abort message => Action.abort message
  | .fault message => Action.fault message
  | .getIndex => Action.getIndex
  | .eof l => Action.eof l
  | .token f => Action.token f
  | .char k f => Action.char k f
  | .pattern p l => Action.pattern p l
  | .matched p => Action.matched (p.eval calls)
  | .bind p f => Action.bind (p.eval calls) fun v => (f v).eval calls
  | .atomize p => Action.atomize (p.eval calls)
  | .lookahead n p => Action.lookahead n (p.eval calls)
  | .stepBy n p => Action.stepBy n (p.eval calls)
  | .peek p => Action.peek (p.eval calls)
  | .label l p => Action.label l (p.eval calls)
  | .isConsumed message p => Action.isConsumed message (p.eval calls)
  | .notConsumed message p => Action.notConsumed message (p.eval calls)
  | .test check l p => Action.test check l (p.eval calls)
  | .ifElse p yes no => Action.ifElse (p.eval calls) (fun v => (yes v).eval calls) (no.eval calls)
  | .tryCatch p handler resume =>
    Action.tryCatch (p.eval calls) handler fun v key => (resume v key).eval calls
  | .tryMap f p => Action.tryMap f (p.eval calls)
  | .sum _ branches => Action.sum (List.ofFn fun i => (branches i).eval calls)
  | .favored preference _ branches =>
    Action.favored preference (List.ofFn fun i => (branches i).eval calls)
  | .loop p min max finish => Action.loop (p.eval calls) min max finish
  | .nested opening closing body =>
    Action.nested (opening.eval calls) (closing.eval calls) (body.eval calls)
  | .lex scanner reader => Action.lex (scanner.eval calls) reader
  | .parseTokens lexer grammar eofTitle render origin =>
    Action.parseTokens (lexer.eval calls) (grammar.eval calls) eofTitle render origin
  | .scanChars outer inner origin =>
    Action.scanChars (outer.eval calls) (inner.eval calls) origin
  | .traced p hook => Action.traced (p.eval calls) hook
  | .lazy make => Action.lazy fun u => (make u).eval calls
  | .rule name => calls name
  | .named name p => Action.named name (p.eval calls)

namespace Rules

def find? (rules : Rules β) (name : String) : Option (Parser β .base) := rules.lookup name

def calls (rules : Rules β) : Nat → Calls β
  | 0, _ => fun _ _ s => ⟨.error .exhausted, s⟩
  | depth + 1, name =>
    match rules.find? name with
    | some p => p.eval (calls rules depth)
    | none => Action.fault missingMessage

-- Tokens may take no text, so this is more than any list of tokens has tokens.
def spare : Nat := Nat.pow 2 60

def depth (rules : Rules β) (env : Env) : Nat :=
  let places := max env.stop (Text.size env.text) + 2
  (rules.length + 1) * places * places + spare

end Rules

namespace Parser

def apply {a : Ty} (rules : Rules β) (p : Parser β a) (env : Env) (s : State β) : Outcome β a :=
  (p.eval (rules.calls (rules.depth env))).run env s

end Parser

end Descent
