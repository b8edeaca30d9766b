import Descent.Parser.Repetition

set_option autoImplicit false

namespace Descent.Parser

variable {β : Type}

def prefixOps (op : Parser β .unary) (operand : Parser β .base) : Parser β .base :=
  both (a := .list .unary) (fun ops v => ops.foldr (fun f acc => f acc) v) (many op) operand

def postfixOps (op : Parser β .unary) (operand : Parser β .base) : Parser β .base :=
  both (b := .list .unary) (fun v ops => ops.foldl (fun acc f => f acc) v) operand (many op)

def tail (op : Parser β .binary) (operand : Parser β .base) : Parser β (.pair .binary .base) :=
  both (c := .pair .binary .base) Prod.mk op operand

def infixN (op : Parser β .binary) (operand : Parser β .base) : Parser β .base :=
  both (b := .option (.pair .binary .base))
    (fun v t =>
      match t with
      | some (f, w) => f v w
      | none => v)
    operand (optional (tail op operand))

def infixL (op : Parser β .binary) (operand : Parser β .base) : Parser β .base :=
  operand.bind fun v =>
    loop (a := .pair .binary .base) (tail op operand) 0 none fun ts =>
      ts.foldl (fun acc (f, w) => f acc w) v

def foldRight (first : β) : List ((β → β → β) × β) → β
  | [] => first
  | (f, v) :: rest => f first (foldRight v rest)

def infixR (op : Parser β .binary) (operand : Parser β .base) : Parser β .base :=
  both (b := .list (.pair .binary .base)) foldRight operand (many (tail op operand))

end Descent.Parser
