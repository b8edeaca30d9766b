import Descent.Parser.Repetition
import Descent.Parser.Scanner
import Descent.Proofs.Parser.Congruence

set_option autoImplicit false

namespace Descent

variable {β : Type} {a b : Ty}

/-- Outcomes of runs from `c` and from `c'` that differ in nothing that a grammar can tell. -/
structure Outcome.Agrees (c c' : Cursor) (o o' : Outcome β a) : Prop where
  reply : o.reply = o'.reply
  move : c.Parallel o.state.cursor c' o'.state.cursor

def Action.Steady (x : Action β a) : Prop :=
  ∀ (env : Env) (n : Nat) (s s' : State β), s.offset = s'.offset →
    (x env n s).Agrees s.cursor s'.cursor (x env n s')

theorem Outcome.agrees_iff {c c' : Cursor} {o o' : Outcome β a} :
    o.Agrees c c' o' ↔ o.Resembles Eq c c' o' := by
  constructor
  · rintro ⟨reply, move⟩
    refine ⟨?_, move⟩
    rw [reply]
    exact .refl .eq _
  · rintro ⟨reply, move⟩
    exact ⟨reply.eq, move⟩

theorem Action.steady_iff {x : Action β a} : x.Steady ↔ ∀ n, x.Resembles Eq n x := by
  constructor
  · exact fun steady n env s s' same => Outcome.agrees_iff.1 (steady env n s s' same)
  · exact fun alike env n s s' same => Outcome.agrees_iff.2 (alike n env s s' same)

open Descent.Action

theorem Parser.eval_steady {calls : Calls β} (steadyCalls : ∀ name, (calls name).Steady)
    (p : Parser β a) : (p.eval calls).Steady :=
  steady_iff.2 (p.eval_resembles .eq fun name => steady_iff.1 (steadyCalls name))

theorem Rules.calls_steady (rules : Rules β) (depth : Nat) (name : String) :
    (rules.calls depth name).Steady := by
  -- Calls inside one another go down by one, so the depth carries the induction.
  induction depth generalizing name with
  | zero => exact fun _ _ _ _ same => ⟨rfl, .refl same⟩
  | succ depth ih =>
    simp only [Rules.calls]
    split
    · exact Parser.eval_steady ih _
    · exact steady_iff.2 fun n => resembles_fault .eq _

end Descent
