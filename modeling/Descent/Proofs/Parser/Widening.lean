import Descent.Parser.Combinators
import Descent.Parser.Eval

set_option autoImplicit false

namespace Descent

variable {β : Type} {a b : Ty}

theorem Cursor.uncommitted_of_le {c d : Cursor} {n m : Nat} (wider : n ≤ m)
    (near : ¬ d.committedFrom c n = true) : ¬ d.committedFrom c m = true := by
  intro far
  apply near
  simp only [committedFrom, Bool.and_eq_true, decide_eq_true_eq] at far ⊢
  exact ⟨far.1, Nat.le_trans wider far.2⟩

namespace Action

def Widens (x : Action β a) : Prop :=
  ∀ {n m : Nat}, n ≤ m → ∀ (env : Env) (s : State β),
    (x env n s).reply ≠ .error .fail → x env m s = x env n s

variable {x : Action β a} {env : Env} {n m : Nat} {s : State β}

theorem sumFrom_widens (wider : n ≤ m) (start : Cursor) (xs : List (Action β a))
    (proceeds : (sumFrom env n start xs s).reply ≠ .error .fail) :
    sumFrom env m start xs s = sumFrom env n start xs s := by
  induction xs generalizing s with
  | nil => rfl
  | cons x xs ih =>
    rcases first : x.run env s with ⟨(_ | _ | _ | _ | _) | v, t⟩
    case error.fail =>
      simp only [sumFrom, orElse, first] at proceeds ⊢
      by_cases committed : t.cursor.committedFrom start n = true
      next => simp [committed, fail] at proceeds
      next =>
        -- The branch took fewer than `n` steps, so the wider lookahead goes back as well.
        have uncommitted := Cursor.uncommitted_of_le wider committed
        simp only [committed, uncommitted] at proceeds ⊢
        exact ih proceeds
    all_goals simp [sumFrom, orElse, first]

theorem widens_sum (xs : List (Action β a)) : (sum xs).Widens := by
  intro n m wider env s proceeds
  exact sumFrom_widens wider s.cursor xs proceeds

theorem widens_ifElse (x : Action β a) (yes : a.Value β → Action β b) (no : Action β b) :
    (ifElse x yes no).Widens := by
  intro n m wider env s proceeds
  rcases first : x.run env s with ⟨(_ | _ | _ | _ | _) | v, t⟩
  case error.fail =>
    simp only [ifElse, first] at proceeds ⊢
    by_cases committed : t.cursor.committedFrom s.cursor n = true
    next => simp [committed, fail] at proceeds
    next =>
      have uncommitted := Cursor.uncommitted_of_le wider committed
      simp only [committed, uncommitted]
  all_goals simp only [ifElse, first]

namespace Widens

theorem part (widens : x.Widens) (wider : n ≤ m) {r : Reply β b} (proceeds : r ≠ .error .fail)
    (keeps : ∀ t, x env n s = ⟨.error .fail, t⟩ → r = .error .fail) : x env m s = x env n s := by
  apply widens wider
  intro failed
  rcases ran : x env n s with ⟨r, t⟩
  rw [ran] at failed
  subst failed
  exact proceeds (keeps t ran)

theorem label (widens : x.Widens) (l : String) : (x.label l).Widens := by
  intro n m wider env s proceeds
  have same : x env m s = x env n s := by
    apply widens.part wider proceeds
    intro t failed
    simp only [Action.label, orElse, failed]
    split <;> rfl
  simp only [Action.label, same]

theorem named (widens : x.Widens) (name : String) : (x.named name).Widens := by
  intro n m wider env s proceeds
  have same : x env m s = x env n s := by
    apply widens.part wider proceeds
    intro t failed
    simp only [Action.named, failed]
  simp only [Action.named, same]

theorem traced (widens : x.Widens) (hook : TraceEvent β a → List (Note β)) :
    (x.traced hook).Widens := by
  intro n m wider env s proceeds
  have same : x env m s = x env n s := widens wider env s proceeds
  simp only [Action.traced, same]

end Widens

end Action

open Descent.Action

theorem Parser.eval_widens {calls : Calls β} (rules : ∀ name, (calls name).Widens)
    (p : Parser β a) : (p.eval calls).Widens := by
  induction p with
  | lookahead k p => exact fun _ _ _ _ => rfl
  | label l p ih => exact ih.label l
  | ifElse p yes no => exact widens_ifElse _ _ _
  | sum k branches => exact widens_sum _
  | traced p hook ih => exact ih.traced hook
  | lazy make ih => exact ih ()
  | rule name => exact rules name
  | named name p ih => exact ih.named name
  -- All others run their parts with the default lookahead, whatever they are run with themselves.
  | _ => exact fun _ _ _ _ => rfl

theorem Rules.calls_widens (rules : Rules β) (depth : Nat) (name : String) :
    (rules.calls depth name).Widens := by
  induction depth generalizing name with
  | zero => exact fun _ _ _ _ => rfl
  | succ depth ih =>
    simp only [Rules.calls]
    split
    next => exact Parser.eval_widens ih _
    next => exact fun _ _ _ _ => rfl

/-- A parser that does not fail ordinarily under a lookahead does the same under a wider one. -/
theorem Parser.wider_lookahead_keeps_outcome (rules : Rules β) (depth : Nat) (p : Parser β a)
    (env : Env) (s : State β) {n m : Nat} (wider : n ≤ m)
    (proceeds : (p.eval (rules.calls depth) env n s).reply ≠ .error .fail) :
    p.eval (rules.calls depth) env m s = p.eval (rules.calls depth) env n s ∧
      ∀ k, (p.lookahead m).eval (rules.calls depth) env k s =
        (p.lookahead n).eval (rules.calls depth) env k s := by
  have same := p.eval_widens (rules.calls_widens depth) wider env s proceeds
  exact ⟨same, fun _ => same⟩

theorem Parser.second_pair_read_from_two_on :
    let letter (c : Char) : Parser Nat .unit := .pattern (.char c) "letter"
    let pair (c : Char) : Parser Nat .unit := seqRight (letter 'a') (letter c)
    let p : Parser Nat .unit := orElse (pair 'b') (pair 'c')
    let env := Env.ofText "ac".toList "text" (PositionMap.ofSource [])
    let s : State Nat := env.stateAt .start
    let run (n : Nat) := p.eval (Rules.calls [] 0) env n s
    (run 1).reply = .error .fail ∧ 2 ≤ 5 ∧ (run 2).reply ≠ .error .fail ∧
      (run 2).reply = .ok () ∧ run 5 = run 2 := by
  intro letter pair p env s run
  have read : (run 2).reply = .ok () := rfl
  have proceeds : (run 2).reply ≠ .error .fail := by
    rw [read]
    nofun
  have wider : 2 ≤ 5 := by decide
  exact ⟨rfl, wider, proceeds, read, (wider_lookahead_keeps_outcome [] 0 p env s wider proceeds).1⟩

end Descent
