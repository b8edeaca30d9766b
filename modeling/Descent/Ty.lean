import Descent.Token.Basic

set_option autoImplicit false

namespace Descent

inductive Ty where
  | base
  | unit
  | nat
  | text
  | lexeme
  | list (a : Ty)
  | option (a : Ty)
  | pair (a b : Ty)
  | unary
  | binary
  deriving DecidableEq, Repr

@[reducible] def Ty.Value (β : Type) : Ty → Type
  | .base => β
  | .unit => Unit
  | .nat => Nat
  | .text => String
  | .lexeme => Lexeme
  | .list a => List (a.Value β)
  | .option a => Option (a.Value β)
  | .pair a b => a.Value β × b.Value β
  | .unary => β → β
  | .binary => β → β → β

structure Typed (β : Type) where
  ty : Ty
  value : ty.Value β

def Typed.at? {β : Type} (a : Ty) (t : Typed β) : Option (a.Value β) :=
  if h : t.ty = a then some (h ▸ t.value) else none

@[simp] theorem Typed.at?_self {β : Type} (a : Ty) (v : a.Value β) :
    Typed.at? a ⟨a, v⟩ = some v := by
  simp [Typed.at?]

end Descent
