import Descent.Parser.Combinators

set_option autoImplicit false

namespace Descent

namespace TraceEvent

variable {β : Type} {a : Ty}

def ok (e : TraceEvent β a) : Bool := e.reply.isOk

def raised (e : TraceEvent β a) : Bool :=
  match e.reply with
  | .ok _ => false
  | .error f => !f.isFail

def shown : Nat := 32

def leading (e : TraceEvent β a) : String :=
  match (Text.drop? e.index e.source).getD [] with
  | [] => endMarker
  | s => String.ofList (s.take shown) ++ (if (s.drop shown).isEmpty then "" else "...")

def toNote (e : TraceEvent β a) (tag : String) (value : Option β) : Note β :=
  .traced tag e.ok e.raised e.index e.steps e.offset e.leading value

def message (e : TraceEvent β a) (parser text : String) : Note β :=
  .message text parser e.leading e.steps e.offset

end TraceEvent

namespace Parser

variable {β : Type} {a : Ty}

def trace (hook : TraceEvent β a → List (Note β)) (p : Parser β a) : Parser β a :=
  match p.name? with
  | some n => named n (traced p hook)
  | none => traced p hook

def onError (hook : TraceEvent β a → List (Note β)) (p : Parser β a) : Parser β a :=
  trace (fun e => if e.ok then [] else hook e) p

def onSuccess (hook : a.Value β → TraceEvent β a → List (Note β)) (p : Parser β a) : Parser β a :=
  trace
    (fun e =>
      match e.reply with
      | .ok v => hook v e
      | .error _ => [])
    p

def printError (n : String) (minSteps : Nat) (p : Parser β a) : Parser β a :=
  onError
    (fun e =>
      if e.steps < minSteps then []
      else [e.message n (n ++ ": " ++ (if e.raised then "exception raised." else "failed."))])
    p

def printResult (n : String) (render : a.Value β → String) (p : Parser β a) : Parser β a :=
  onSuccess (fun v e => [e.message n (n ++ " => " ++ render v)]) p

def printTrace (n : String) (render : a.Value β → String) (p : Parser β a) : Parser β a :=
  printResult n render (printError n 1 p)

end Parser

end Descent
