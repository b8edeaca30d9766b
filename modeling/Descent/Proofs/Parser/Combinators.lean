import Descent.Parser.Repetition
import Descent.Parser.Eval

set_option autoImplicit false

namespace Descent

variable {β : Type} {a b c : Ty}

namespace Action

variable {env : Env} {n : Nat} {start : Cursor} {xs ys : List (Action β a)} {s t : State β}

theorem sumFrom_restored (here : s.cursor = start)
    (failed : sumFrom env n start xs s = ⟨.error .fail, t⟩)
    (uncommitted : ¬ t.cursor.committedFrom start n = true) : t.cursor = start := by
  induction xs generalizing s with
  | nil =>
    cases failed
    exact here
  | cons x xs ih =>
    rcases first : x.run env s with ⟨r, u⟩
    simp only [sumFrom, orElse, first] at failed
    rcases r with (_ | _ | _ | _ | _) | v
    case error.fail =>
      dsimp only at failed
      split at failed
      case isTrue committed =>
        cases failed
        exact absurd committed uncommitted
      case isFalse => exact ih rfl failed
    all_goals cases failed

theorem sumFrom_append (here : s.cursor = start) :
    sumFrom env n start (xs ++ ys) s = orElse (sumFrom env n start xs s) fun t =>
      if t.cursor.committedFrom start n then fail t else sumFrom env n start ys t := by
  induction xs generalizing s with
  | nil => simp [sumFrom, orElse, fail, here, Cursor.committedFrom, Cursor.movedFrom]
  | cons x xs ih =>
    rcases first : x.run env s with ⟨r, u⟩
    simp only [List.cons_append, sumFrom, orElse, first]
    rcases r with (_ | _ | _ | _ | _) | v
    case error.fail =>
      by_cases committed : u.cursor.committedFrom start n = true
      · simp [committed, fail]
      · simp only [committed]
        exact ih rfl
    all_goals rfl

theorem sumFrom_pass (n : Nat) (ys : List (Action β a)) (here : s.cursor = start)
    (misses : ∀ x ∈ xs, ∀ u : State β, u.cursor = start →
      ∃ t, x.run env u = ⟨.error .fail, t⟩ ∧ t.offset = u.offset) :
    ∃ u : State β, u.cursor = start ∧
      sumFrom env n start (xs ++ ys) s = sumFrom env n start ys u := by
  induction xs generalizing s with
  | nil => exact ⟨s, here, rfl⟩
  | cons x xs ih =>
    obtain ⟨t, failed, still⟩ := misses x List.mem_cons_self s here
    obtain ⟨u, there, rest⟩ := ih (s := (t.mergeError s.error).restore start) rfl
      fun y member => misses y (List.mem_cons_of_mem _ member)
    have uncommitted : t.cursor.committedFrom start n = false := by
      have : t.cursor.offset = start.offset := here ▸ still
      simp [Cursor.committedFrom, Cursor.movedFrom, this]
    refine ⟨u, there, ?_⟩
    rw [← rest, List.cons_append, sumFrom, failed]
    simp [orElse, uncommitted]

theorem sumFrom_reads (n : Nat) (ys : List (Action β a)) {x : Action β a} {v : a.Value β}
    {ends : State β → Prop} (here : s.cursor = start)
    (misses : ∀ y ∈ xs, ∀ u : State β, u.cursor = start →
      ∃ t, y.run env u = ⟨.error .fail, t⟩ ∧ t.offset = u.offset)
    (reads : ∀ u : State β, u.cursor = start → ∃ t, x.run env u = ⟨.ok v, t⟩ ∧ ends t) :
    ∃ t, sumFrom env n start (xs ++ x :: ys) s = ⟨.ok v, t⟩ ∧ ends t := by
  obtain ⟨u, there, past⟩ := sumFrom_pass n (x :: ys) here misses
  obtain ⟨t, ran, ended⟩ := reads u there
  refine ⟨t, ?_, ended⟩
  rw [past, sumFrom, ran]
  rfl

end Action

namespace Parser

variable (calls : Calls β)

def actions (calls : Calls β) (p : Parser β a) : List (Action β a) :=
  p.branches.map (eval calls)

theorem eval_listed (ps : List (Parser β a)) :
    (List.ofFn fun i : Fin ps.length => (ps.get i).eval calls) = ps.map (eval calls) :=
  List.ext_getElem (by simp) fun i _ _ => by simp

theorem branches_plus (ps : List (Parser β a)) : (plus ps).branches = ps.flatMap branches :=
  List.ext_getElem (by simp [plus, branches]) fun i _ _ => by simp [plus, branches]

theorem actions_plus (ps : List (Parser β a)) :
    (plus ps).actions calls = ps.flatMap (actions calls) := by
  rw [actions, branches_plus, List.map_flatMap]
  rfl

theorem eval_plus (ps : List (Parser β a)) :
    (plus ps).eval calls = Action.sum (ps.flatMap (actions calls)) := by
  rw [← actions_plus, actions, branches_plus, ← eval_listed]
  rfl

theorem eval_longest (ps : List (Parser β a)) :
    (longest ps).eval calls = Action.favored .longest (ps.map (eval calls)) := by
  rw [← eval_listed]
  rfl

theorem eval_shortest (ps : List (Parser β a)) :
    (shortest ps).eval calls = Action.favored .shortest (ps.map (eval calls)) := by
  rw [← eval_listed]
  rfl

theorem eval_optional (p : Parser β a) :
    (optional p).eval calls =
      Action.sum [Action.bind (p.eval calls) fun v => Action.ret (a := .option a) (some v),
        Action.ret (a := .option a) none] := by
  rw [optional, eval_plus]
  rfl

end Parser

end Descent
