import Descent.Diagnostic.Exception
import Descent.Ty

set_option autoImplicit false

namespace Descent

inductive Payload where
  | unit
  | text (s : String)
  | label (s : String)
  | number (n : Nat)
  deriving DecidableEq, Repr

namespace Payload

def text? : Payload → Option String
  | text s => some s
  | _ => none

def number? : Payload → Option Nat
  | number n => some n
  | _ => none

def render : Payload → String
  | text s | label s => s
  | unit => "signal"
  | number n => s!"signal {n}"

end Payload

inductive KeyId where
  | listEnd
  | given (n : Nat)
  deriving DecidableEq, Repr

structure Key where
  id : KeyId
  payload : Payload
  deriving DecidableEq, Repr

def Key.listEnd : Key := ⟨.listEnd, .unit⟩

structure Signal (β : Type) where
  key : Key
  collected : Option (Typed β) := none

structure UserError where
  message : String
  index : Option Nat := none
  deriving DecidableEq, Repr

inductive Failure (β : Type) where
  | fail
  | signal (s : Signal β)
  | user (e : UserError)
  | fault (e : Exception)
  | exhausted

namespace Failure

def isFail {β : Type} : Failure β → Bool
  | fail => true
  | _ => false

end Failure

abbrev Reply (β : Type) (a : Ty) := Except (Failure β) (a.Value β)

end Descent
