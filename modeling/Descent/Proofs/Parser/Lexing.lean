import Descent.Proofs.Parser.Combinators
import Descent.Proofs.Parser.Placement
import Descent.Token.Lexer

set_option autoImplicit false

namespace Descent

variable {β : Type} {a b : Ty}

def Ty.InPlace (env : Env) (first : Nat) : (a : Ty) → a.Value β → Prop
  | .lexeme, l => first ≤ l.index ∧ env.Within l.index
  | .list a, vs => ∀ v ∈ vs, a.InPlace env first v
  | .option a, v => ∀ w, v = some w → a.InPlace env first w
  | .pair a b, v => a.InPlace env first v.1 ∧ b.InPlace env first v.2
  | .base, _ | .unit, _ | .nat, _ | .text, _ | .unary, _ | .binary, _ => True

def Reply.InPlace (env : Env) (first : Nat) : Reply β a → Prop
  | .ok v => a.InPlace env first v
  | .error (.signal sig) => ∀ c, sig.collected = some c → c.ty.InPlace env first c.value
  | .error _ => True

structure Action.Yields (env : Env) (first : Nat) (x : Action β a) : Prop where
  regular : x.Regular Env.Hosts
  inPlace : ∀ (n : Nat) (s : State β), first ≤ s.offset → s.Placed env (fun _ => True) →
    (x env n s).reply.InPlace env first

namespace Action

variable {x : Action β a} {env : Env} {first : Nat} {s : State β}

theorem Yields.apply (yields : x.Yields env first) (n : Nat) (le : first ≤ s.offset)
    (placed : s.Placed env fun _ => True) :
    ∃ r t, x env n s = ⟨r, t⟩ ∧ s.Leads env (fun _ => True) t ∧ r.InPlace env first :=
  ⟨_, _, rfl, (yields.regular env n s).leads (env.admits_true s.offset) placed,
    yields.inPlace n s le placed⟩

theorem Yields.run (yields : x.Yields env first) (le : first ≤ s.offset)
    (placed : s.Placed env fun _ => True) :
    ∃ r t, x.run env s = ⟨r, t⟩ ∧ s.Leads env (fun _ => True) t ∧ r.InPlace env first :=
  yields.apply defaultLookahead le placed

end Action

open Descent.Action Descent.Parser

variable {calls : Calls β} {good : Action β (.list .lexeme) → Prop} {env : Env} {first : Nat}

theorem Action.lex_spans {x : Action β a} {reader : TokenReader} {n : Nat} {s t : State β}
    {l : Lexeme} (regular : x.Regular Env.Hosts) (within : env.Within s.offset)
    (truthful : s.Truthful env)
    (run : lex x reader env n s = ⟨.ok l, t⟩) :
    l.index = s.offset ∧ l.index + l.length = t.offset := by
  have placed : s.Placed env fun _ => True := ⟨within, fun _ _ => trivial, truthful⟩
  obtain ⟨r, u, scanned, leads⟩ := regular.leads (env.admits_true s.offset) placed
  simp only [lex, andThen, scanned] at run
  cases r with
  | error e => cases run
  | ok v =>
    dsimp only at run
    split at run
    · cases run
    · split at run
      · cases run
      · cases run
        exact ⟨rfl, Nat.add_sub_cancel' leads.offset⟩

end Descent
