import Descent.Proofs.Operator.Levels
import Descent.Proofs.Parser.Orderly

set_option autoImplicit false

namespace Descent

variable {β : Type} {calls : Calls β} {env : Env} {first : Nat}

open Descent.Parser

theorem Level.orderly_wrap {operand : Parser β .base}
    (orderly : (operand.eval calls).Calm env first 0) (l : Level β) (some : l.parsers ≠ [])
    (each : ∀ p ∈ l.parsers, p.Calm calls env first 0) :
    (l.wrap operand).Calm calls env first 0 := by
  obtain ⟨kind, precedence, parsers⟩ := l
  have op := (orderly_plus some each).eval
  cases kind with
  | before => exact .of_eval (orderly_both (orderly_many op) orderly) rfl
  | after => exact .of_eval (orderly_both orderly (orderly_many op)) rfl
  | leftAssoc =>
    have tails (v : β) : (Action.loop ((tail (plus parsers) operand).eval calls) 0 none
        fun ts : List ((β → β → β) × β) =>
          (ts.foldl (fun acc t => t.1 acc t.2) v : Ty.base.Value β)).Calm env (first + 0) 0 :=
      Action.orderly_loop (orderly_both op orderly) (fun _ _ _ => trivial)
        fun _ _ raised => raised.elim
    exact .of_eval (Action.orderly_bind orderly (fun v => (tails v).regular) fun v _ => tails v) rfl
  | rightAssoc => exact .of_eval (orderly_both orderly (orderly_many (orderly_both op orderly))) rfl
  | nonAssoc =>
    exact .of_eval (orderly_both orderly (orderly_optional (orderly_both op orderly))) rfl

theorem OperatorTable.orderly_expression (t : OperatorTable β) {term : Parser β .base}
    (orderly : term.Calm calls env first 0)
    (each : ∀ o ∈ t.operators, o.parser.Calm calls env first 0) :
    (t.expression term).Calm calls env first 0 :=
  expression_induction (·.Calm calls env first 0) (·.Calm calls env first 0) orderly each
    fun l _ some ops operand => l.orderly_wrap operand.eval some ops

end Descent
