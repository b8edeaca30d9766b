import Descent.Parser.Repetition
import Descent.Proofs.Parser.Discreet
import Descent.Proofs.Parser.Escape

set_option autoImplicit false

namespace Descent

variable {β : Type} {a b : Ty}

-- A repetition that makes something of its values is given them one by one.
structure Accumulator (β : Type) (a b : Ty) where
  State : Type
  fresh : State
  accumulate : State → a.Value β → State
  result : State → b.Value β

namespace Accumulator

def feed (acc : Accumulator β a b) (vs : List (a.Value β)) : b.Value β :=
  acc.result (vs.foldl acc.accumulate acc.fresh)

-- Nothing is made of the values before all of them are there.
def gather (finish : List (a.Value β) → b.Value β) : Accumulator β a b where
  State := List (a.Value β)
  fresh := []
  accumulate vs v := vs ++ [v]
  result := finish

def foldLeft (init : b.Value β) (f : b.Value β → a.Value β → b.Value β) : Accumulator β a b :=
  gather fun vs => vs.foldl f init

def count : Accumulator β a .nat where
  State := Nat
  fresh := 0
  accumulate n _ := n + 1
  result n := n

def discard : Accumulator β a .unit where
  State := Unit
  fresh := ()
  accumulate _ _ := ()
  result _ := ()

@[simp] theorem feed_gather (finish : List (a.Value β) → b.Value β) :
    (gather finish).feed = finish := by
  funext vs
  have gathered (vs us : List (a.Value β)) : vs.foldl (fun vs v => vs ++ [v]) us = us ++ vs := by
    induction vs generalizing us with
    | nil => simp
    | cons v vs ih => simp [ih]
  simp [gather, feed, gathered]

@[simp] theorem feed_foldLeft (init : b.Value β) (f : b.Value β → a.Value β → b.Value β)
    (vs : List (a.Value β)) : (foldLeft init f).feed vs = vs.foldl f init := by
  rw [foldLeft, feed_gather]

@[simp] theorem feed_count : (count : Accumulator β a _).feed = Parser.count := by
  funext vs
  have counted (vs : List (a.Value β)) (n : Nat) :
      vs.foldl (fun n _ => n + 1) n = n + vs.length := by
    induction vs generalizing n with
    | nil => simp
    | cons v vs ih => simp [ih]; omega
  simp [count, feed, Parser.count, counted]

@[simp] theorem feed_discard : (discard : Accumulator β a _).feed = Parser.discard := rfl

end Accumulator

namespace Application

variable (rules : Rules β) (x : Application β a)

def Succeeds : Prop := ∃ v t, x.outcome rules = ⟨.ok v, t⟩

def Fails : Prop := ∃ t, x.outcome rules = ⟨.error .fail, t⟩

def Moves : Prop := (x.outcome rules).state.offset ≠ x.state.offset

variable {rules x}

theorem Succeeds.not_fails (succeeds : x.Succeeds rules) : ¬ x.Fails rules := by
  intro fails
  obtain ⟨v, t, ok⟩ := succeeds
  obtain ⟨u, fail⟩ := fails
  rw [ok] at fail
  cases fail

theorem advances_of_ok {v : a.Value β} {t : State β} (ok : x.outcome rules = ⟨.ok v, t⟩) :
    x.env.Advances x.state.offset t.offset := by
  have onward := (Parser.onward rules x.depth x.parser).eval x.env x.lookahead x.state
  have same : x.parser.eval (rules.calls x.depth) x.env x.lookahead x.state = ⟨.ok v, t⟩ := ok
  rw [same] at onward
  exact onward

end Application

inductive Rounds (rules : Rules β) (depth : Nat) (env : Env) (p : Parser β a) :
    State β → List (Application β a) → List (a.Value β) → State β → Prop
  | none (s : State β) : Rounds rules depth env p s [] [] s
  | next {s t u : State β} {v : a.Value β} {ys : List (Application β a)} {vs : List (a.Value β)}
    (first : (Plan.part depth env p s).outcome rules = ⟨.ok v, t⟩)
    (others : Rounds rules depth env p t ys vs u) :
    Rounds rules depth env p s (Plan.part depth env p s :: ys) (v :: vs) u

inductive Final (min : Nat) (finish : List (a.Value β) → b.Value β) (vs : List (a.Value β))
    (u : State β) : Outcome β a → Outcome β b → Prop
  | dropped {v : a.Value β} {t : State β} (enough : min ≤ vs.length)
    (still : t.offset = u.offset) : Final min finish vs u ⟨.ok v, t⟩ ⟨.ok (finish vs), t⟩
  | refused {t : State β} (enough : min ≤ vs.length) (still : t.offset = u.offset) :
    Final min finish vs u ⟨.error .fail, t⟩ ⟨.ok (finish vs), t.restore u.cursor⟩
  | failed {t : State β} (broken : vs.length < min ∨ t.offset ≠ u.offset) :
    Final min finish vs u ⟨.error .fail, t⟩ ⟨.error .fail, t⟩
  | unwound {sig : Signal β} {t : State β} :
    Final min finish vs u ⟨.error (.signal sig), t⟩
      ⟨.error (.signal ⟨sig.key, some ⟨b, finish vs⟩⟩), t⟩
  | ended {e : Failure β} {t : State β} (hard : e.isFail = false) (silent : e.isSignal = false) :
    Final min finish vs u ⟨.error e, t⟩ ⟨.error e, t⟩

/-- How a repetition that has collected `vs` and stands at `u` ends: the applications that are left,
and the outcome. -/
inductive Closes (rules : Rules β) (depth : Nat) (env : Env) (p : Parser β a) (min : Nat)
    (max : Option Nat) (finish : List (a.Value β) → b.Value β) (vs : List (a.Value β))
    (u : State β) : List (Application β a) → Outcome β b → Prop
  | full (bound : max = some vs.length) :
    Closes rules depth env p min max finish vs u [] ⟨.ok (finish vs), u⟩
  | last {o : Outcome β b} (below : max ≠ some vs.length)
    (final : Final min finish vs u ((Plan.part depth env p u).outcome rules) o) :
    Closes rules depth env p min max finish vs u [Plan.part depth env p u] o

section

variable {rules : Rules β} {depth : Nat} {env : Env} {p : Parser β a} {min : Nat}
  {max : Option Nat} {finish : List (a.Value β) → b.Value β} {s u : State β}
  {ys last : List (Application β a)} {vs : List (a.Value β)} {o : Outcome β b}

namespace Rounds

theorem length_eq (rounds : Rounds rules depth env p s ys vs u) : ys.length = vs.length := by
  induction rounds with
  | none => rfl
  | next _ _ ih => simp [ih]

theorem succeeds (rounds : Rounds rules depth env p s ys vs u) :
    ∀ y ∈ ys, y.Succeeds rules := by
  induction rounds with
  | none => simp
  | next first _ ih =>
    intro y member
    rcases List.mem_cons.1 member with rfl | member
    · exact ⟨_, _, first⟩
    · exact ih y member

theorem values_eq {vs' : List (a.Value β)} {u' : State β}
    (rounds : Rounds rules depth env p s ys vs u) (rounds' : Rounds rules depth env p s ys vs' u') :
    vs = vs' := by
  induction rounds generalizing vs' with
  | none =>
    cases rounds'
    rfl
  | next first _ ih =>
    cases rounds' with
    | next first' others =>
      cases first.symm.trans first'
      rw [ih others]

-- Each round that moves brings the end of the input nearer.
theorem length_le (rounds : Rounds rules depth env p s ys vs u) {k : Nat}
    (moving : ∀ y ∈ ys.drop k, y.Moves rules) : ys.length ≤ k + (env.stop - s.offset) := by
  induction rounds generalizing k with
  | none => simp
  | @next s t u v ys vs first _ ih =>
    obtain ⟨le, inside⟩ : env.Advances s.offset t.offset := Application.advances_of_ok first
    rw [List.length_cons]
    cases k with
    | zero =>
      have moved := moving _ List.mem_cons_self
      rw [Application.Moves, first] at moved
      have ahead : t.offset ≠ s.offset := moved
      have rest := ih (k := 0) fun y member => moving y (List.mem_cons_of_mem _ member)
      omega
    | succ k =>
      have rest := ih moving
      omega

end Rounds

namespace Final

variable {ran : Outcome β a} {t : State β}

theorem of_ok {r : b.Value β} (final : Final min finish vs u ran ⟨.ok r, t⟩) :
    r = finish vs ∧ min ≤ vs.length ∧ ∃ t', t'.offset = u.offset ∧
      ((∃ v, ran = ⟨.ok v, t'⟩) ∧ t = t' ∨ ran = ⟨.error .fail, t'⟩ ∧ t = t'.restore u.cursor) := by
  cases final with
  | @dropped v _ enough still => exact ⟨rfl, enough, t, still, .inl ⟨⟨v, rfl⟩, rfl⟩⟩
  | @refused t' enough still => exact ⟨rfl, enough, t', still, .inr ⟨rfl, rfl⟩⟩

theorem still {r : b.Value β}
    (final : Final min finish vs u ((Plan.part depth env p u).outcome rules) ⟨.ok r, t⟩) :
    ((Plan.part depth env p u).Fails rules ∨ (Plan.part depth env p u).Succeeds rules) ∧
      ¬ (Plan.part depth env p u).Moves rules := by
  obtain ⟨-, -, t', still, next⟩ := final.of_ok
  rw [Application.Moves]
  rcases next with ⟨⟨v, next⟩, -⟩ | ⟨next, -⟩
  · rw [next]
    exact ⟨.inr ⟨v, t', next⟩, fun moved => moved still⟩
  · rw [next]
    exact ⟨.inl ⟨t', next⟩, fun moved => moved still⟩

theorem of_fail (final : Final min finish vs u ran (⟨.error .fail, t⟩ : Outcome β b)) :
    ran = ⟨.error .fail, t⟩ ∧ (vs.length < min ∨ t.offset ≠ u.offset) := by
  cases final with
  | failed broken => exact ⟨rfl, broken⟩
  | ended hard => cases hard

theorem exists_or_kept (min : Nat) (finish : List (a.Value β) → b.Value β) (vs : List (a.Value β))
    (u : State β) (ran : Outcome β a) :
    (∃ o, Final min finish vs u ran o) ∨
      ∃ v t, ran = ⟨.ok v, t⟩ ∧ (vs.length < min ∨ t.offset ≠ u.offset) := by
  rcases ran with ⟨(_ | sig | e | e | _) | v, t⟩
  case error.fail =>
    by_cases broken : vs.length < min ∨ t.offset ≠ u.offset
    · exact .inl ⟨_, .failed broken⟩
    · exact .inl ⟨_, .refused (by omega) (by omega)⟩
  case ok =>
    by_cases kept : vs.length < min ∨ t.offset ≠ u.offset
    · exact .inr ⟨v, t, rfl, kept⟩
    · exact .inl ⟨_, .dropped (by omega) (by omega)⟩
  case error.signal => exact .inl ⟨_, .unwound⟩
  all_goals exact .inl ⟨_, .ended rfl rfl⟩

end Final

namespace Closes

theorem length_le (closes : Closes rules depth env p min max finish vs u last o) :
    last.length ≤ 1 := by
  cases closes <;> simp

theorem eq_part {y : Application β a}
    (closes : Closes rules depth env p min max finish vs u last o) (member : y ∈ last) :
    y = Plan.part depth env p u := by
  cases closes with
  | full => cases member
  | last => exact List.mem_singleton.1 member

end Closes

namespace Plan

variable {values : List (a.Value β)}

theorem loopFrom_full (bound : max = some values.length) (fuel : Nat) :
    loopFrom depth env p min max finish (fuel + 1) values.length values.reverse s =
      done (Action.ok (finish values) s) := by
  simp only [loopFrom, if_pos bound, List.reverse_reverse]

theorem loopFrom_final (below : max ≠ some values.length)
    (final : Final min finish values s ((part depth env p s).outcome rules) o) (fuel : Nat) :
    let plan := loopFrom depth env p min max finish (fuel + 1) values.length values.reverse s
    plan.operands rules = [⟨a, part depth env p s⟩] ∧ plan.run rules = o := by
  intro plan
  generalize ran : (part depth env p s).outcome rules = o' at final
  simp only [plan, loopFrom, if_neg below, operands, run, ran, List.reverse_reverse]
  cases final with
  | @dropped _ t enough still =>
    have stops : (decide (min ≤ values.length) && !t.cursor.movedFrom s.cursor) = true := by
      simpa [Cursor.movedFrom, State.offset] using ⟨enough, still⟩
    simp only [stops]
    exact ⟨rfl, rfl⟩
  | @refused t enough still =>
    have goes : (decide (values.length < min) || t.cursor.movedFrom s.cursor) = false := by
      simpa [Cursor.movedFrom, State.offset] using ⟨enough, still⟩
    simp only [goes]
    exact ⟨rfl, rfl⟩
  | @failed t broken =>
    have stops : (decide (values.length < min) || t.cursor.movedFrom s.cursor) = true := by
      simpa [Cursor.movedFrom, State.offset] using broken
    simp only [stops]
    exact ⟨rfl, rfl⟩
  | unwound => exact ⟨rfl, rfl⟩
  | @ended e _ hard silent =>
    cases e with
    | fail => cases hard
    | signal => cases silent
    | _ => exact ⟨rfl, rfl⟩

theorem loopFrom_round (finish : List (a.Value β) → b.Value β) {v : a.Value β} {t : State β}
    (below : max ≠ some values.length)
    (ran : (part depth env p s).outcome rules = ⟨.ok v, t⟩)
    (kept : values.length < min ∨ t.offset ≠ s.offset) (fuel : Nat) :
    let plan := loopFrom depth env p min max finish (fuel + 1) values.length values.reverse s
    let next :=
      loopFrom depth env p min max finish fuel (values ++ [v]).length (values ++ [v]).reverse t
    plan.operands rules = ⟨a, part depth env p s⟩ :: next.operands rules ∧
      plan.run rules = next.run rules := by
  intro plan next
  have goes : (decide (min ≤ values.length) && !t.cursor.movedFrom s.cursor) = false := by
    simpa [Cursor.movedFrom, State.offset, Decidable.or_iff_not_imp_left] using kept
  simp only [plan, next, loopFrom, if_neg below, operands, run, ran, goes, List.length_append,
    List.length_singleton, List.reverse_append, List.reverse_singleton, List.singleton_append]
  exact ⟨rfl, rfl⟩

end Plan

theorem mem_drop_cons {α : Type} {x y : α} {ys : List α} {k : Nat} :
    y ∈ (x :: ys).drop k ↔ k = 0 ∧ y = x ∨ y ∈ ys.drop (k - 1) := by
  cases k <;> simp

structure Course (rules : Rules β) (depth : Nat) (env : Env) (p : Parser β a) (min : Nat)
    (max : Option Nat) (finish : List (a.Value β) → b.Value β) (values : List (a.Value β))
    (s : State β) (plan : Plan β b) (ys : List (Application β a)) (vs : List (a.Value β))
    (u : State β) (last : List (Application β a)) : Prop where
  rounds : Rounds rules depth env p s ys vs u
  performed : plan.operands rules = (ys ++ last).map (Sigma.mk a)
  closes : Closes rules depth env p min max finish (values ++ vs) u last (plan.run rules)
  moving : ∀ y ∈ ys.drop (min - values.length), y.Moves rules
  bounded : ∀ m, max = some m → values.length ≤ m → values.length + vs.length ≤ m

namespace Course

variable {values : List (a.Value β)} {plan : Plan β b}

theorem closed (performed : plan.operands rules = last.map (Sigma.mk a))
    (closes : Closes rules depth env p min max finish values s last (plan.run rules)) :
    Course rules depth env p min max finish values s plan [] [] s last where
  rounds := .none s
  performed := performed
  closes := by simpa using closes
  moving := by simp
  bounded _ _ le := by simpa using le

-- A round that is kept brings the lower bound nearer, or the end of the input.
theorem round {t : State β} {v : a.Value β} {next : Plan β b}
    (ran : (Plan.part depth env p s).outcome rules = ⟨.ok v, t⟩)
    (kept : values.length < min ∨ t.offset ≠ s.offset) (below : max ≠ some values.length)
    (performed : plan.operands rules = ⟨a, Plan.part depth env p s⟩ :: next.operands rules)
    (run : plan.run rules = next.run rules)
    (others : Course rules depth env p min max finish (values ++ [v]) t next ys vs u last) :
    Course rules depth env p min max finish values s plan (Plan.part depth env p s :: ys)
      (v :: vs) u last := by
  have more : (values ++ [v]).length = values.length + 1 := by simp
  constructor
  case rounds => exact .next ran others.rounds
  case performed => simp [performed, others.performed]
  case closes => simpa [run] using others.closes
  case moving =>
    intro y member
    rcases mem_drop_cons.1 member with ⟨none, rfl⟩ | member
    · have moved : t.offset ≠ s.offset := kept.resolve_left (by omega)
      rw [Application.Moves, ran]
      exact moved
    · rw [← Nat.sub_add_eq, ← more] at member
      exact others.moving y member
  case bounded =>
    intro m bound le
    have least : values.length ≠ m := by
      intro same
      exact below (same ▸ bound)
    have rest := others.bounded m bound (by omega)
    rw [more] at rest
    rw [List.length_cons]
    omega

-- All rounds succeed, so a part that does not is the last one that is applied.
theorem eq_of_not_succeeds
    (course : Course rules depth env p min max finish values s plan ys vs u last)
    {before after : List (Application β a)} {y : Application β a}
    (same : ys ++ last = before ++ y :: after) (not : ¬ y.Succeeds rules) :
    before = ys ∧ y = Plan.part depth env p u ∧ last = [y] := by
  have le := course.closes.length_le
  rcases List.append_eq_append_iff.1 same with ⟨more, rfl, rfl⟩ | ⟨more, rfl, rest⟩
  · rw [List.length_append, List.length_cons] at le
    obtain rfl : more = [] := List.eq_nil_of_length_eq_zero (by omega)
    obtain rfl : after = [] := List.eq_nil_of_length_eq_zero (by omega)
    exact ⟨List.append_nil ys, course.closes.eq_part List.mem_cons_self, rfl⟩
  · cases more with
    | nil =>
      rw [List.nil_append] at rest
      obtain rfl : after = [] := by
        rw [← rest, List.length_cons] at le
        exact List.eq_nil_of_length_eq_zero (by omega)
      subst rest
      exact ⟨(List.append_nil before).symm, course.closes.eq_part List.mem_cons_self, rfl⟩
    | cons z more =>
      obtain ⟨rfl, -⟩ := List.cons.inj rest
      exact absurd (course.rounds.succeeds y (by simp)) not

theorem fails_iff (course : Course rules depth env p min max finish [] s plan ys vs u last) :
    (∃ t, plan.run rules = ⟨.error .fail, t⟩) ↔
      ∃ ys' vs' u' later, ys ++ last = ys' ++ Plan.part depth env p u' :: later ∧
        Rounds rules depth env p s ys' vs' u' ∧ (Plan.part depth env p u').Fails rules ∧
        (vs'.length < min ∨ (Plan.part depth env p u').Moves rules) := by
  have closes := course.closes
  generalize plan.run rules = o at closes ⊢
  constructor
  · intro failed
    obtain ⟨t, rfl⟩ := failed
    cases closes with
    | last _ final =>
      obtain ⟨ran, broken⟩ := final.of_fail
      refine ⟨ys, vs, u, [], rfl, course.rounds, ⟨t, ran⟩, ?_⟩
      rw [Application.Moves, ran]
      exact broken
  · intro failing
    obtain ⟨ys', vs', u', later, same, rounds, fails, broken⟩ := failing
    obtain ⟨rfl, here, rfl⟩ :=
      course.eq_of_not_succeeds same fun succeeds => succeeds.not_fails fails
    obtain rfl : u' = u := congrArg Application.state here
    obtain ⟨t, fails⟩ := fails
    rw [Application.Moves, fails, rounds.length_eq.symm.trans course.rounds.length_eq] at broken
    cases closes with
    | last _ final =>
      rw [fails] at final
      cases final with
      | refused enough still =>
        rcases broken with few | moved
        · exact absurd enough (Nat.not_le_of_lt few)
        · exact absurd still moved
      | failed => exact ⟨t, rfl⟩
      | ended hard => cases hard

end Course

theorem Plan.loopFrom_course (p : Parser β a) (min : Nat) (max : Option Nat)
    (finish : List (a.Value β) → b.Value β) (values : List (a.Value β)) {fuel : Nat}
    (enough : min - values.length + (env.stop - s.offset) < fuel) :
    ∃ ys vs u last, Course rules depth env p min max finish values s
      (loopFrom depth env p min max finish fuel values.length values.reverse s) ys vs u last := by
  induction fuel generalizing values s with
  | zero => omega
  | succ fuel ih =>
    by_cases full : max = some values.length
    · rw [loopFrom_full full]
      exact ⟨[], [], s, [], .closed rfl (.full full)⟩
    · rcases Final.exists_or_kept min finish values s ((part depth env p s).outcome rules) with
        ⟨o, final⟩ | ⟨v, t, ran, kept⟩
      · obtain ⟨performed, run⟩ := loopFrom_final full final fuel
        refine ⟨[], [], s, [part depth env p s], .closed performed ?_⟩
        rw [run]
        exact .last full final
      · obtain ⟨performed, run⟩ := loopFrom_round finish full ran kept fuel
        have nearer : min - (values ++ [v]).length + (env.stop - t.offset) < fuel := by
          obtain ⟨le, inside⟩ : env.Advances s.offset t.offset := Application.advances_of_ok ran
          rw [List.length_append, List.length_singleton]
          omega
        obtain ⟨ys, vs, u, last, others⟩ := ih _ nearer
        exact ⟨_, _, u, last, .round ran kept full performed run others⟩

theorem Application.course (rules : Rules β) {x : Application β b}
    (loop : x.parser = .loop p min max finish) :
    ∃ ys vs u last, Course rules x.depth x.env p min max finish [] x.state (x.plan rules) ys vs u
      last := by
  obtain ⟨parser, depth, env, n, s⟩ := x
  obtain rfl : parser = .loop p min max finish := loop
  exact Plan.loopFrom_course p min max finish [] (by simp)

end

/-- A repetition applies its part to where the application before it stopped, as often as it
collects a value and at most once more. -/
theorem Application.repetition_collects (rules : Rules β) (acc : Accumulator β a b)
    {x : Application β b} {p : Parser β a} {min : Nat} {max : Option Nat}
    (loop : x.parser = .loop p min max acc.feed) (ordered : ∀ m, max = some m → min ≤ m) :
    let again (u : State β) := Plan.part x.depth x.env p u
    let Collected := Rounds rules x.depth x.env p x.state
    ∃ applied : List (Application β a),
      (x.plan rules).operands rules = applied.map (Sigma.mk a) ∧
      (x.plan rules).run rules = x.outcome rules ∧
      (∀ r t, x.outcome rules = ⟨.ok r, t⟩ → ∃ ys vs u, Collected ys vs u ∧
        min ≤ vs.length ∧ (∀ m, max = some m → vs.length ≤ m) ∧
        r = acc.result (vs.foldl acc.accumulate acc.fresh) ∧
        (∀ init f, acc = .foldLeft init f → r = vs.foldl f init) ∧
        (∀ y ∈ ys.drop min, y.Moves rules) ∧
        (max = some vs.length ∧ applied = ys ∨
          applied = ys ++ [again u] ∧ ((again u).Fails rules ∨ (again u).Succeeds rules) ∧
            ¬ (again u).Moves rules)) ∧
      (x.Fails rules ↔ ∃ ys vs u later, applied = ys ++ again u :: later ∧ Collected ys vs u ∧
        (again u).Fails rules ∧ (vs.length < min ∨ (again u).Moves rules)) ∧
      applied.length ≤ min + (x.env.stop - x.state.offset) + 1 ∧
      ((x.outcome rules).reply = .error .exhausted →
        ∃ y ∈ applied, (y.outcome rules).reply = .error .exhausted) := by
  intro again Collected
  obtain ⟨ys, vs, u, last, course⟩ := Application.course rules loop
  have closes := course.closes
  rw [List.nil_append, x.plan_run] at closes
  have bounded := course.bounded
  have moving := course.moving
  simp only [List.length_nil, Nat.sub_zero, Nat.zero_add, Nat.zero_le, true_implies]
    at bounded moving
  refine ⟨ys ++ last, course.performed, x.plan_run rules, ?_, ?_, ?_, ?_⟩
  · intro r t ran
    rw [ran] at closes
    have folded (init : b.Value β) (f : b.Value β → a.Value β → b.Value β)
        (same : acc = .foldLeft init f) : acc.feed vs = vs.foldl f init := by
      rw [same, Accumulator.feed_foldLeft]
    cases closes with
    | full bound =>
      exact ⟨ys, vs, u, course.rounds, ordered _ bound, bounded, rfl, folded, moving,
        .inl ⟨bound, List.append_nil ys⟩⟩
    | last below final =>
      obtain ⟨rfl, enough, -⟩ := final.of_ok
      exact ⟨ys, vs, u, course.rounds, enough, bounded, rfl, folded, moving,
        .inr ⟨rfl, final.still⟩⟩
  · rw [Application.Fails, ← x.plan_run]
    exact course.fails_iff
  · have few := course.rounds.length_le moving
    have le := closes.length_le
    rw [List.length_append]
    omega
  · intro exhausted
    rcases o : x.outcome rules with ⟨r, t⟩
    rw [o] at closes exhausted
    obtain rfl : r = .error .exhausted := exhausted
    cases closes with
    | last _ final =>
      generalize ran : (Plan.part x.depth x.env p u).outcome rules = o at final
      cases final with
      | ended => exact ⟨_, by simp, congrArg Outcome.reply ran⟩

theorem Application.optional_letters_collected :
    let letter : Parser Nat (.option .unit) := Parser.optional (.pattern (.char 'a') "a")
    let env := Env.ofText "ab".toList "text" (PositionMap.ofSource [])
    let s : State Nat := env.stateAt .start
    let x : Application Nat .nat := ⟨Parser.countMany 2 letter, 0, env, 1, s⟩
    x.parser = .loop letter 2 none Accumulator.count.feed ∧
      (∀ m, (none : Option Nat) = some m → 2 ≤ m) ∧ (x.outcome []).reply = .ok 2 ∧
      ∃ ys vs u, Rounds [] 0 env letter s ys vs u ∧ vs.length = 2 ∧ (∀ y ∈ ys.drop 2, y.Moves []) ∧
        (x.plan []).operands [] =
          (ys ++ [Plan.part 0 env letter u]).map (Sigma.mk (.option .unit)) ∧
        ¬ (Plan.part 0 env letter u).Moves [] := by
  intro letter env s x
  have loop : x.parser = .loop letter 2 none Accumulator.count.feed := by
    rw [Accumulator.feed_count]
    rfl
  have ordered : ∀ m, (none : Option Nat) = some m → 2 ≤ m := by simp
  have counted : (x.outcome []).reply = .ok 2 := rfl
  obtain ⟨applied, performed, -, collected, -⟩ := repetition_collects [] _ loop ordered
  obtain ⟨ys, vs, u, rounds, -, -, all, -, moving, next⟩ :=
    collected 2 (x.outcome []).state (by rw [← counted])
  refine ⟨loop, ordered, counted, ys, vs, u, rounds, ?_, moving, ?_⟩
  · have fed : Accumulator.count.feed vs = 2 := all.symm
    rwa [Accumulator.feed_count] at fed
  · rcases next with ⟨bound, -⟩ | ⟨rfl, -, still⟩
    · cases bound
    · exact ⟨performed, still⟩

/-- The cursor is where the last collected value left it; but a round that is dropped may have taken
steps, which still count. -/
theorem Application.repetition_keeps_cursor_iff (rules : Rules β) {x : Application β b}
    {p : Parser β a} {min : Nat} {max : Option Nat} {finish : List (a.Value β) → b.Value β}
    (loop : x.parser = .loop p min max finish) {r : b.Value β} {t : State β}
    (ran : x.outcome rules = ⟨.ok r, t⟩) :
    ∃ ys vs u last, Rounds rules x.depth x.env p x.state ys vs u ∧ r = finish vs ∧
      (x.plan rules).operands rules = (ys ++ last).map (Sigma.mk a) ∧
      (last = [] ∨ last = [Plan.part x.depth x.env p u]) ∧ t.offset = u.offset ∧
      (t.steps = u.steps ↔
        ∀ y ∈ last, ∀ v w, y.outcome rules = ⟨.ok v, w⟩ → w.steps = u.steps) := by
  obtain ⟨ys, vs, u, last, course⟩ := Application.course rules loop
  have closes := course.closes
  rw [List.nil_append, x.plan_run, ran] at closes
  cases closes with
  | full => exact ⟨ys, vs, t, [], course.rounds, rfl, course.performed, by simp⟩
  | last below final =>
    obtain ⟨collected, -, t', still, next⟩ := final.of_ok
    refine ⟨ys, vs, u, _, course.rounds, collected, course.performed, .inr rfl, ?_⟩
    rcases next with ⟨⟨v, next⟩, rfl⟩ | ⟨next, rfl⟩
    · simp [next, still]
    · simp [next, State.restore, State.offset, State.steps]

theorem Application.letters_keep_cursor :
    let letter : Parser Nat .unit := .pattern (.char 'a') "a"
    let env := Env.ofText "aab".toList "text" (PositionMap.ofSource [])
    let s : State Nat := env.stateAt .start
    let x : Application Nat (.list .unit) := ⟨Parser.many letter, 0, env, 1, s⟩
    let t := (x.outcome []).state
    x.parser = .loop letter 0 none (fun vs => vs) ∧ x.outcome [] = ⟨.ok [(), ()], t⟩ ∧
      t.cursor = ⟨2, 2⟩ ∧
      ∃ ys vs u last, Rounds [] 0 env letter s ys vs u ∧ [(), ()] = vs ∧
        (x.plan []).operands [] = (ys ++ last).map (Sigma.mk .unit) ∧
        (last = [] ∨ last = [Plan.part 0 env letter u]) ∧ t.offset = u.offset ∧
        (t.steps = u.steps ↔
          ∀ y ∈ last, ∀ v w, y.outcome [] = ⟨.ok v, w⟩ → w.steps = u.steps) := by
  intro letter env s x t
  have loop : x.parser = .loop letter 0 none (fun vs => vs) := rfl
  have ran : x.outcome [] = ⟨.ok [(), ()], t⟩ := rfl
  exact ⟨loop, ran, rfl, repetition_keeps_cursor_iff [] loop ran⟩

theorem Application.dropped_round_leaves_step :
    let env := Env.ofText [] "text" (PositionMap.ofSource [])
    let s : State Nat := env.stateAt .start
    let x : Application Nat (.list .base) := ⟨Parser.many (.atomize (.ret 1)), 0, env, 1, s⟩
    (x.outcome []).reply = .ok [] ∧ x.state.steps = 0 ∧ (x.outcome []).state.steps = 1 :=
  ⟨rfl, rfl, rfl⟩

end Descent
