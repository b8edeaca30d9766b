import Descent.Proofs.Parser.State

/-!
The plan of an application says which operands it applies, in which state, and what it makes of
their outcomes. Run with what the operands really do, it is what the parser does.
-/

set_option autoImplicit false

namespace Descent

variable {β : Type} {a b : Ty}

/-- A parser with all that its outcome depends on, beside the rules. -/
structure Application (β : Type) (a : Ty) where
  parser : Parser β a
  depth : Nat
  env : Env
  lookahead : Nat
  state : State β

def Application.outcome (rules : Rules β) (x : Application β a) : Outcome β a :=
  x.parser.eval (rules.calls x.depth) x.env x.lookahead x.state

inductive Plan (β : Type) (a : Ty) where
  | done (o : Outcome β a)
  | perform {b : Ty} (x : Application β b) (next : Outcome β b → Plan β a)

namespace Plan

def run (rules : Rules β) : Plan β a → Outcome β a
  | done o => o
  | perform x next => (next (x.outcome rules)).run rules

def operands (rules : Rules β) : Plan β a → List ((b : Ty) × Application β b)
  | done _ => []
  | perform x next => ⟨_, x⟩ :: (next (x.outcome rules)).operands rules

def once (x : Application β b) (use : Action β b → Outcome β a) : Plan β a :=
  perform x fun o => done (use fun _ _ _ => o)

def andThen (o : Outcome β b) (f : b.Value β → State β → Plan β a) : Plan β a :=
  match o with
  | ⟨.ok v, s⟩ => f v s
  | ⟨.error e, s⟩ => done ⟨.error e, s⟩

def orElse (o : Outcome β a) (f : State β → Plan β a) : Plan β a :=
  match o with
  | ⟨.error .fail, s⟩ => f s
  | o => done o

section

variable (depth : Nat) (env : Env)

def part (p : Parser β a) (s : State β) : Application β a :=
  ⟨p, depth, env, Action.defaultLookahead, s⟩

def sumFrom (n : Nat) (start : Cursor) : List (Parser β a) → State β → Plan β a
  | [], s => done (Action.fail s)
  | p :: ps, s =>
    perform (part depth env p s) fun o => orElse o fun t =>
      if t.cursor.committedFrom start n then done (Action.fail t)
      else sumFrom n start ps ((t.mergeError s.error).restore start)

def favoredRest (preference : Preference) (start : Cursor) :
    List (Parser β a) → a.Value β → Cursor → State β → Plan β a
  | [], v, best, s => done (Action.ok v (s.restore best))
  | p :: ps, v, best, s =>
    perform (part depth env p (s.restore start)) fun o =>
      match o with
      | ⟨.ok w, t⟩ =>
        if preference.prefers t.offset best.offset then
          favoredRest preference start ps w t.cursor t
        else favoredRest preference start ps v best t
      | ⟨.error .fail, t⟩ => favoredRest preference start ps v best t
      | o => done o

def favoredFrom (preference : Preference) (start : Cursor) :
    List (Parser β a) → Option Diagnostic → State β → Plan β a
  | [], error, s => done (Action.fail (s.setError error))
  | p :: ps, error, s =>
    perform (part depth env p s) fun o =>
      match o with
      | ⟨.ok v, t⟩ => favoredRest depth env preference start ps v t.cursor t
      | ⟨.error .fail, t⟩ =>
        let merged := t.mergeError error
        favoredFrom preference start ps merged.error ((merged.setError none).restore start)
      | o => done o

def loopFrom (p : Parser β b) (min : Nat) (max : Option Nat)
    (finish : List (b.Value β) → a.Value β) : Nat → Nat → List (b.Value β) → State β → Plan β a
  | 0, _, _, s => done ⟨.error .exhausted, s⟩
  | fuel + 1, count, values, s =>
    if max = some count then done (Action.ok (finish values.reverse) s)
    else
      perform (part depth env p s) fun o =>
        match o with
        | ⟨.ok v, t⟩ =>
          if decide (min ≤ count) && !t.cursor.movedFrom s.cursor then
            done (Action.ok (finish values.reverse) t)
          else loopFrom p min max finish fuel (count + 1) (v :: values) t
        | ⟨.error .fail, t⟩ =>
          if decide (count < min) || t.cursor.movedFrom s.cursor then done (Action.fail t)
          else done (Action.ok (finish values.reverse) (t.restore s.cursor))
        | ⟨.error (.signal sig), t⟩ =>
          done ⟨.error (.signal ⟨sig.key, some ⟨a, finish values.reverse⟩⟩), t⟩
        | ⟨.error e, t⟩ => done ⟨.error e, t⟩

def nestedFrom (opening closing body : Parser β .unit) : Nat → Nat → State β → Plan β .unit
  | _, 0, s => done (Action.ok (a := .unit) () s)
  | 0, _ + 1, s => done ⟨.error .exhausted, s⟩
  | fuel + 1, level + 1, s =>
    perform (part depth env closing s) fun o =>
      match o with
      | ⟨.ok _, t⟩ =>
        if t.cursor.movedFrom s.cursor then nestedFrom opening closing body fuel level t
        else done (Action.faulty
          (env.fault t.offset "closing comment scanner not consuming input") t)
      | ⟨.error e, t⟩ =>
        if e.isFail && !t.cursor.movedFrom s.cursor then
          perform (part depth env opening t) fun o =>
            match o with
            | ⟨.ok _, u⟩ =>
              if u.cursor.movedFrom s.cursor then
                nestedFrom opening closing body fuel (level + 2) u
              else done (Action.faulty
                (env.fault u.offset "opening comment scanner not consuming input") u)
            | ⟨.error e, u⟩ =>
              if e.isFail && !u.cursor.movedFrom s.cursor then
                perform (part depth env body u) fun o => andThen o fun _ v =>
                  if v.cursor.movedFrom s.cursor then
                    nestedFrom opening closing body fuel (level + 1) v
                  else done (Action.faulty
                    (env.fault v.offset "commented scanner not consuming input") v)
              else done ⟨.error e, u⟩
        else done ⟨.error e, t⟩

def inside (p : Parser β a) (inner : Env) (first : Nat) (s : State β) : Plan β a :=
  once (part depth inner p (s.enter inner first)) fun x => Action.inside x inner first s

end

end Plan

open Plan in
/-- A label, a name, a hook and a lazy parser hand the lookahead on; all others run their parts with
the default. A rule is called at a depth that is less by one. -/
def Parser.plan (rules : Rules β) (depth : Nat) (env : Env) (n : Nat) (s : State β) {a : Ty} :
    Parser β a → Plan β a
  | .ret v => done (Action.ret v env n s)
  | .reject why => done (Action.reject why env n s)
  | .raise key => done (Action.raise key env n s)
  | .abort message => done (Action.abort message env n s)
  | .fault message => done (Action.fault message env n s)
  | .getIndex => done (Action.getIndex env n s)
  | .eof l => done (Action.eof l env n s)
  | .token f => done (Action.token f env n s)
  | .char k f => done (Action.char k f env n s)
  | .pattern p l => done (Action.pattern p l env n s)
  | .matched p => once (part depth env p s) fun x => Action.matched x env n s
  | .bind p f => perform (part depth env p s) fun o => Plan.andThen o fun v t =>
    perform (part depth env (f v) t) done
  | .atomize p => once (part depth env p s) fun x => Action.atomize x env n s
  | .lookahead m p => once ⟨p, depth, env, m, s⟩ fun x => Action.lookahead m x env n s
  | .stepBy m p => once (part depth env p s) fun x => Action.stepBy m x env n s
  | .peek p => once (part depth env p s) fun x => Action.peek x env n s
  | .label l p => once ⟨p, depth, env, n, s⟩ fun x => Action.label l x env n s
  | .isConsumed message p =>
    once (part depth env p s) fun x => Action.isConsumed message x env n s
  | .notConsumed message p =>
    once (part depth env p s) fun x => Action.notConsumed message x env n s
  | .test check l p => once (part depth env p s) fun x => Action.test check l x env n s
  | .ifElse p yes no => perform (part depth env p s) fun o =>
    match o with
    | ⟨.ok v, t⟩ => perform (part depth env (yes v) t) done
    | ⟨.error .fail, t⟩ =>
      if t.cursor.committedFrom s.cursor n then done (Action.fail t)
      else
        once (part depth env no ((t.restore s.cursor).setError none)) fun x =>
          Action.ifElse (fun _ _ _ => o) (fun _ => x) x env n s
    | ⟨.error e, t⟩ => done ⟨.error e, t⟩
  | .tryCatch p handler resume => perform (part depth env p s) fun o =>
    match o with
    | ⟨.error (.signal sig), t⟩ =>
      let collected := sig.collected.bind (Typed.at? a)
      match (handler collected sig.key).recovery with
      | .resume =>
        perform (part depth env (resume collected sig.key)
          ((t.note (handler collected sig.key).notes).setError s.error)) done
      | _ => done (Action.tryCatch (fun _ _ _ => o) handler (fun _ _ _ _ _ => o) env n s)
    | o => done o
  | .tryMap f p => once (part depth env p s) fun x => Action.tryMap f x env n s
  | .sum _ ps => sumFrom depth env n s.cursor (List.ofFn ps) s
  | .favored preference _ ps => favoredFrom depth env preference s.cursor (List.ofFn ps) none s
  | .loop p min max finish =>
    loopFrom depth env p min max finish (min + (env.stop - s.offset) + 2) 0 [] s
  | .nested opening closing body => perform (part depth env opening s) fun o =>
    Plan.andThen o fun _ t =>
      nestedFrom depth env opening closing body (env.stop - t.offset + 2) 1 t
  | .lex p reader => once (part depth env p s) fun x => Action.lex x reader env n s
  | .parseTokens lexer p eofTitle render origin => perform (part depth env lexer s) fun o =>
    Plan.andThen o fun (lexemes : List Lexeme) t =>
      match env.window t.offset with
      | .error e => done (Action.faulty e t)
      | .ok w =>
        let run : TokenRun :=
          { source := w.source, lexemes := lexemes.toArray, endIndex := env.index t.offset
            eofTitle := eofTitle, render := render }
        inside depth p (Env.ofTokens run origin env.positions) 0 t
  | .scanChars outer p origin => perform (part depth env outer s) fun o =>
    Plan.andThen o fun _ t =>
      match env.window t.offset with
      | .error e => done (Action.faulty e t)
      | .ok w => inside depth p (Env.ofRange w.source t.offset origin env.positions) s.offset t
  | .traced p hook => once ⟨p, depth, env, n, s⟩ fun x => Action.traced x hook env n s
  | .lazy make => once ⟨make (), depth, env, n, s⟩ fun x => Action.lazy (fun _ => x) env n s
  | .rule name =>
    match depth with
    | 0 => done ⟨.error .exhausted, s⟩
    | depth + 1 =>
      match rules.find? name with
      | some p => perform ⟨p, depth, env, n, s⟩ done
      | none => done (Action.fault Rules.missingMessage env n s)
  | .named name p => once ⟨p, depth, env, n, s⟩ fun x => Action.named name x env n s

def Application.plan (rules : Rules β) (x : Application β a) : Plan β a :=
  x.parser.plan rules x.depth x.env x.lookahead x.state

section

variable (rules : Rules β) (depth : Nat) (env : Env)

theorem Application.outcome_part (p : Parser β a) (s : State β) :
    (Plan.part depth env p s).outcome rules = (p.eval (rules.calls depth)).run env s := rfl

namespace Plan

theorem run_andThen (o : Outcome β b) (f : b.Value β → State β → Plan β a) :
    (andThen o f).run rules = Action.andThen o fun v t => (f v t).run rules := by
  rcases o with ⟨_ | v, s⟩ <;> rfl

theorem run_orElse (o : Outcome β a) (f : State β → Plan β a) :
    (orElse o f).run rules = Action.orElse o fun t => (f t).run rules := by
  rcases o with ⟨(_ | _ | _ | _ | _) | v, s⟩ <;> rfl

theorem sumFrom_run (n : Nat) (start : Cursor) (ps : List (Parser β a)) (s : State β) :
    (sumFrom depth env n start ps s).run rules =
      Action.sumFrom env n start (ps.map (Parser.eval (rules.calls depth))) s := by
  induction ps generalizing s with
  | nil => rfl
  | cons p ps ih =>
    simp only [sumFrom, run, run_orElse, List.map_cons, Action.sumFrom]
    congr 1
    funext t
    split
    · rfl
    · exact ih _

theorem favoredRest_run (preference : Preference) (start : Cursor) (ps : List (Parser β a))
    (v : a.Value β) (best : Cursor) (s : State β) :
    (favoredRest depth env preference start ps v best s).run rules =
      Action.favoredRest preference env start (ps.map (Parser.eval (rules.calls depth))) v best
        s := by
  induction ps generalizing v best s with
  | nil => rfl
  | cons p ps ih =>
    simp only [favoredRest, run, List.map_cons, Action.favoredRest, Application.outcome_part]
    rcases (p.eval (rules.calls depth)).run env (s.restore start) with
      ⟨(_ | _ | _ | _ | _) | w, t⟩
    case error.fail => exact ih v best t
    case ok =>
      dsimp only
      split
      · exact ih w t.cursor t
      · exact ih v best t
    all_goals rfl

theorem favoredFrom_run (preference : Preference) (start : Cursor) (ps : List (Parser β a))
    (error : Option Diagnostic) (s : State β) :
    (favoredFrom depth env preference start ps error s).run rules =
      Action.favoredFrom preference env start (ps.map (Parser.eval (rules.calls depth))) error
        s := by
  induction ps generalizing error s with
  | nil => rfl
  | cons p ps ih =>
    simp only [favoredFrom, run, List.map_cons, Action.favoredFrom, Application.outcome_part]
    rcases (p.eval (rules.calls depth)).run env s with ⟨(_ | _ | _ | _ | _) | v, t⟩
    case error.fail => exact ih _ _
    case ok => exact favoredRest_run rules depth env preference start ps v t.cursor t
    all_goals rfl

theorem loopFrom_run (p : Parser β b) (min : Nat) (max : Option Nat)
    (finish : List (b.Value β) → a.Value β) (fuel count : Nat) (values : List (b.Value β))
    (s : State β) :
    (loopFrom depth env p min max finish fuel count values s).run rules =
      Action.loopFrom (p.eval (rules.calls depth)) min max finish env fuel count values s := by
  induction fuel generalizing count values s with
  | zero => rfl
  | succ fuel ih =>
    simp only [loopFrom, Action.loopFrom]
    split
    · rfl
    · simp only [run, Application.outcome_part]
      rcases (p.eval (rules.calls depth)).run env s with ⟨(_ | _ | _ | _ | _) | v, t⟩
      case error.fail =>
        dsimp only
        split <;> rfl
      case ok =>
        dsimp only
        split
        · rfl
        · exact ih _ _ t
      all_goals rfl

theorem nestedFrom_run (opening closing body : Parser β .unit) (fuel level : Nat) (s : State β) :
    (nestedFrom depth env opening closing body fuel level s).run rules =
      Action.nestedFrom (opening.eval (rules.calls depth)) (closing.eval (rules.calls depth))
        (body.eval (rules.calls depth)) env fuel level s := by
  induction fuel generalizing level s with
  | zero => cases level <;> rfl
  | succ fuel ih =>
    cases level with
    | zero => rfl
    | succ level =>
      simp only [nestedFrom, Action.nestedFrom, run, Application.outcome_part]
      rcases (closing.eval (rules.calls depth)).run env s with ⟨e | v, t⟩
      case ok =>
        dsimp only
        split
        · exact ih level t
        · rfl
      case error =>
        dsimp only
        split
        · simp only [run, Application.outcome_part]
          rcases (opening.eval (rules.calls depth)).run env t with ⟨e | v, u⟩
          case ok =>
            dsimp only
            split
            · exact ih (level + 2) u
            · rfl
          case error =>
            dsimp only
            split
            · simp only [run, run_andThen, Application.outcome_part]
              congr 1
              funext _ v
              split
              · exact ih (level + 1) v
              · rfl
            · rfl
        · rfl

end Plan

theorem Parser.plan_run (n : Nat) (s : State β) (p : Parser β a) :
    (p.plan rules depth env n s).run rules = p.eval (rules.calls depth) env n s := by
  cases p with
  | bind p f => simp only [plan, Plan.run, Plan.run_andThen]; rfl
  | ifElse p yes no =>
    simp only [plan, Plan.run, Application.outcome_part, eval, Action.ifElse]
    rcases (p.eval (rules.calls depth)).run env s with ⟨(_ | _ | _ | _ | _) | v, t⟩
    case error.fail =>
      dsimp only
      split
      case isTrue => rfl
      case isFalse uncommitted =>
        simp only [Plan.once, Plan.run, Application.outcome_part, Action.run, if_neg uncommitted]
    all_goals rfl
  | tryCatch p handler resume =>
    simp only [plan, Plan.run, Application.outcome_part, eval, Action.tryCatch]
    rcases (p.eval (rules.calls depth)).run env s with ⟨(_ | sig | _ | _ | _) | v, t⟩
    case error.signal =>
      dsimp only
      cases decided : (handler (sig.collected.bind (Typed.at? a)) sig.key).recovery with
      | resume => rfl
      | value v => simp only [Plan.run, Action.run, decided]
      | propagate left => simp only [Plan.run, Action.run, decided]
    all_goals rfl
  | sum k ps =>
    simp only [plan, Plan.sumFrom_run, List.map_ofFn]
    rfl
  | favored preference k ps =>
    simp only [plan, Plan.favoredFrom_run, List.map_ofFn]
    rfl
  | loop p min max finish => exact Plan.loopFrom_run rules depth env p min max finish _ 0 [] s
  | nested opening closing body =>
    simp only [plan, Plan.run, Plan.run_andThen, Plan.nestedFrom_run]
    rfl
  | parseTokens lexer p eofTitle render origin =>
    simp only [plan, Plan.run, Plan.run_andThen, eval, Action.parseTokens]
    congr 1
    funext lexemes t
    cases env.window t.offset <;> rfl
  | scanChars outer p origin =>
    simp only [plan, Plan.run, Plan.run_andThen, eval, Action.scanChars]
    congr 1
    funext v t
    cases env.window t.offset <;> rfl
  | rule name =>
    cases depth with
    | zero => rfl
    | succ depth =>
      simp only [plan, eval, Rules.calls]
      cases rules.find? name <;> rfl
  | _ => rfl

end

end Descent
