import Descent.Operator.Expression

set_option autoImplicit false

namespace Descent

/-- Kinds of operator, in the order in which levels of equal precedence are stacked. -/
inductive OperatorKind where
  | before
  | after
  | leftAssoc
  | rightAssoc
  | nonAssoc
  deriving DecidableEq, Repr

namespace OperatorKind

@[reducible] def ty : OperatorKind → Ty
  | before | after => .unary
  | leftAssoc | rightAssoc | nonAssoc => .binary

def rank : OperatorKind → Nat
  | before => 0
  | after => 1
  | leftAssoc => 2
  | rightAssoc => 3
  | nonAssoc => 4

end OperatorKind

structure Operator (β : Type) where
  kind : OperatorKind
  /-- A higher precedence binds tighter. -/
  precedence : Int
  parser : Parser β kind.ty

structure OperatorTable (β : Type) where
  operators : List (Operator β) := []

structure Level (β : Type) where
  kind : OperatorKind
  precedence : Int
  parsers : List (Parser β kind.ty)

namespace Operator

variable {β : Type}

def le (p o : Operator β) : Bool :=
  if p.precedence = o.precedence then decide (p.kind.rank ≤ o.kind.rank)
  else decide (o.precedence < p.precedence)

end Operator

namespace OperatorTable

variable {β : Type}

def size (t : OperatorTable β) : Nat := t.operators.length

def push (o : Operator β) : List (Level β) → List (Level β)
  | [] => [⟨o.kind, o.precedence, [o.parser]⟩]
  | l :: ls =>
    if h : o.kind = l.kind then
      if o.precedence = l.precedence then
        ⟨l.kind, l.precedence, (h ▸ o.parser) :: l.parsers⟩ :: ls
      else ⟨o.kind, o.precedence, [o.parser]⟩ :: l :: ls
    else ⟨o.kind, o.precedence, [o.parser]⟩ :: l :: ls

def levels (t : OperatorTable β) : List (Level β) :=
  (t.operators.mergeSort Operator.le).foldr push []

end OperatorTable

namespace Level

variable {β : Type}

def wrap (operand : Parser β .base) : Level β → Parser β .base
  | ⟨.before, _, ops⟩ => Parser.prefixOps (Parser.plus ops) operand
  | ⟨.after, _, ops⟩ => Parser.postfixOps (Parser.plus ops) operand
  | ⟨.leftAssoc, _, ops⟩ => Parser.infixL (Parser.plus ops) operand
  | ⟨.rightAssoc, _, ops⟩ => Parser.infixR (Parser.plus ops) operand
  | ⟨.nonAssoc, _, ops⟩ => Parser.infixN (Parser.plus ops) operand

end Level

def OperatorTable.expression {β : Type} (t : OperatorTable β) (term : Parser β .base) :
    Parser β .base :=
  t.levels.foldl Level.wrap term

end Descent
