import Descent.Proofs.Parser.Rounds

set_option autoImplicit false

namespace Descent

variable {β : Type} {a b c : Ty}

namespace Parser

open Descent.Action

section

variable {calls : Calls β} {env : Env} {s : State β} {p : Parser β a} {sep : Parser β c}

end

/-- After the rounds of a list there is one more separator, from `u` to `w`; there the element fails
with the state `x`, and not too far on to be given up. -/
structure Trailing (rules : Rules β) (depth : Nat) (env : Env) (sep : Parser β c) (p : Parser β a)
    (u w x : State β) : Prop where
  separator : ∃ v, (Plan.part depth env sep u).outcome rules = ⟨.ok v, w⟩
  element : (Plan.part depth env p w).outcome rules = ⟨.error .fail, x⟩
  uncommitted : x.cursor.committedFrom w.cursor 1 = false

section

variable {rules : Rules β} {depth : Nat} {env : Env} {sep : Parser β c} {p : Parser β a}
  {s t u w x : State β} {vs : List (a.Value β)}

theorem Trailing.le (trailing : Trailing rules depth env sep p u w x) : u.offset ≤ w.offset := by
  obtain ⟨v, separator⟩ := trailing.separator
  have advances : env.Advances u.offset w.offset := Application.advances_of_ok separator
  exact advances.1

end

section

variable {rules : Rules β} (each : ∀ name q, rules.find? name = some q → q.Discreet) (depth : Nat)
  (finish : List (a.Value β) → b.Value β) {sep : Parser β c} {p : Parser β a}
  (separator : sep.Discreet) (item : p.Discreet) (env : Env) (n : Nat) (s : State β)

include each separator item

end

end Parser

end Descent
