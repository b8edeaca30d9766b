import Descent.Proofs.Operator.Levels
import Descent.Proofs.Parser.Blind

set_option autoImplicit false

namespace Descent

variable {β : Type} {L : Likeness} {called : String → Prop}

open Descent.Parser

theorem Level.blind_wrap {operand : Parser β .base} (blind : operand.Blind L called) (l : Level β)
    (each : ∀ p ∈ l.parsers, p.Blind L called) : (l.wrap operand).Blind L called := by
  obtain ⟨kind, precedence, parsers⟩ := l
  have op := blind_plus each
  cases kind with
  | before => exact blind_both rfl rfl rfl _ (blind_loop rfl rfl 0 none _ op) blind
  | after => exact blind_both rfl rfl rfl _ blind (blind_loop rfl rfl 0 none _ op)
  | leftAssoc =>
    have tails := blind_both (c := .pair .binary .base) rfl rfl rfl Prod.mk op blind
    exact blind_bind rfl blind fun v => blind_loop rfl rfl 0 none _ tails
  | rightAssoc =>
    have tails := blind_both (c := .pair .binary .base) rfl rfl rfl Prod.mk op blind
    exact blind_both rfl rfl rfl _ blind (blind_loop rfl rfl 0 none _ tails)
  | nonAssoc =>
    have tails := blind_both (c := .pair .binary .base) rfl rfl rfl Prod.mk op blind
    exact blind_both rfl rfl rfl _ blind (blind_optional tails)

theorem OperatorTable.blind_expression (t : OperatorTable β) {term : Parser β .base}
    (blind : term.Blind L called) (each : ∀ o ∈ t.operators, o.parser.Blind L called) :
    (t.expression term).Blind L called :=
  expression_induction (·.Blind L called) (·.Blind L called) blind each
    fun l _ _ ops operand => l.blind_wrap operand ops

end Descent
