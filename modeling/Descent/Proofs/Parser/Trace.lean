import Descent.Parser.Grammar
import Descent.Parser.Scanner
import Descent.Proofs.Parser.Escape
import Descent.Proofs.Parser.Induction

set_option autoImplicit false

namespace Descent

variable {β : Type} {a b : Ty}

namespace Application

def Faults (rules : Rules β) (x : Application β a) : Prop :=
  ∃ e, (x.outcome rules).reply = .error (.fault e)

def frame? (rules : Rules β) (x : Application β a) : Option Frame :=
  x.parser.name?.map fun name =>
    let index := x.env.index (x.outcome rules).state.offset
    ⟨x.env.origin, index, x.env.positions.position index, name⟩

end Application

/-- The applications in progress when a fault is raised inside `x`, the innermost first. -/
inductive Raising (rules : Rules β) :
    {a : Ty} → Application β a → List ((b : Ty) × Application β b) → Prop
  | here {a : Ty} {x : Application β a} (faulted : x.Faults rules)
    (own : ∀ y ∈ (x.plan rules).operands rules, ¬ y.2.Faults rules) :
    Raising rules x [⟨a, x⟩]
  | inside {a b : Ty} {x : Application β a} {y : Application β b}
    {path : List ((b : Ty) × Application β b)}
    (operand : ⟨b, y⟩ ∈ (x.plan rules).operands rules) (raising : Raising rules y path) :
    Raising rules x (path ++ [⟨a, x⟩])

def Outcome.Frameless (o : Outcome β a) : Prop := ∀ e, o.reply = .error (.fault e) → e.frames = []

namespace Outcome

theorem frameless_of_quiet {o : Outcome β a} (quiet : ∀ e, o.reply ≠ .error (.fault e)) :
    o.Frameless :=
  fun e faulted => absurd faulted (quiet e)

theorem frameless_faulty {e : Exception} {t : State β} (none : e.frames = []) :
    (Action.faulty e t : Outcome β a).Frameless := by
  rintro _ ⟨⟩
  exact none

end Outcome

namespace Env

variable {env : Env} {k : Nat} {e : Exception}

theorem frames_of_window (window : env.window k = .error e) : e.frames = [] := by
  unfold Env.window at window
  split at window <;> cases window
  rfl

theorem frames_of_char? (found : env.char? k = .error e) : e.frames = [] := by
  cases window : env.window k with
  | error e' =>
    rw [char?, rest, window] at found
    cases found
    exact frames_of_window window
  | ok w =>
    rw [char?, rest, window] at found
    cases found

theorem frames_of_lexeme? (found : env.lexeme? k = .error e) : e.frames = [] := by
  unfold lexeme? at found
  split at found <;> cases found
  rfl

end Env

namespace Action

open Outcome

variable {env : Env} {n : Nat} {s : State β}

theorem eof_frameless {l : String} : (eof l env n s : Outcome β .unit).Frameless := by
  unfold eof
  split <;> rintro _ ⟨⟩

theorem token_frameless (f : Lexeme → Option (a.Value β)) : (token f env n s).Frameless := by
  unfold token
  split
  · rename_i found
    exact frameless_faulty (Env.frames_of_lexeme? found)
  · split <;> rintro _ ⟨⟩

theorem char_frameless (k : CharClass) (f : Char → a.Value β) :
    (char k f env n s).Frameless := by
  unfold char
  split
  · rename_i found
    exact frameless_faulty (Env.frames_of_char? found)
  · split <;> rintro _ ⟨⟩

theorem pattern_frameless (p : Pattern) (l : String) :
    (pattern p l env n s : Outcome β .unit).Frameless := by
  unfold pattern
  split
  · rename_i window
    exact frameless_faulty (Env.frames_of_window window)
  · split <;> rintro _ ⟨⟩

section

variable (v : a.Value β) (t : State β)

theorem matched_frameless :
    (matched (a := a) (fun _ _ _ => ⟨.ok v, t⟩) env n s).Frameless := by
  simp only [matched, andThen, run]
  split
  · rename_i window
    exact frameless_faulty (Env.frames_of_window window)
  · rintro _ ⟨⟩

theorem isConsumed_frameless (message : String) :
    (isConsumed (a := a) message (fun _ _ _ => ⟨.ok v, t⟩) env n s).Frameless := by
  simp only [isConsumed, andThen, run]
  split <;> rintro _ ⟨⟩

theorem notConsumed_frameless (message : String) :
    (notConsumed (a := a) message (fun _ _ _ => ⟨.ok v, t⟩) env n s).Frameless := by
  simp only [notConsumed, andThen, run]
  split <;> rintro _ ⟨⟩

theorem test_frameless (check : a.Value β → Bool) (l : Option String) :
    (test check l (fun _ _ _ => ⟨.ok v, t⟩) env n s).Frameless := by
  simp only [test, andThen, run]
  split <;> rintro _ ⟨⟩

theorem tryMap_frameless (f : a.Value β → Except UserError (b.Value β)) :
    (tryMap f (fun _ _ _ => ⟨.ok v, t⟩) env n s).Frameless := by
  simp only [tryMap, andThen, run]
  split <;> rintro _ ⟨⟩

theorem lex_frameless (reader : TokenReader) :
    (lex (a := a) (fun _ _ _ => ⟨.ok v, t⟩) reader env n s).Frameless := by
  simp only [lex, andThen, run]
  split
  · rename_i window
    exact frameless_faulty (Env.frames_of_window window)
  · split
    · exact frameless_faulty rfl
    · rintro _ ⟨⟩

end

end Action

namespace Plan

open Outcome

variable {rules : Rules β} {depth : Nat} {env : Env}

/-- A fault of an operand ends the plan as it is, and a fault of its own has no frames yet. -/
def Passes : Plan β a → Prop
  | done o => o.Frameless
  | perform _ next =>
    (∀ e t, ∃ u, next ⟨.error (.fault e), t⟩ = done ⟨.error (.fault e), u⟩) ∧
      ∀ o, (∀ e, o.reply ≠ .error (.fault e)) → (next o).Passes

theorem passes_run {plan : Plan β a} (passes : plan.Passes) {e : Exception}
    (faulted : (plan.run rules).reply = .error (.fault e)) :
    (e.frames = [] ∧ ∀ y ∈ plan.operands rules, ¬ y.2.Faults rules) ∨
      ∃ y ∈ plan.operands rules, (y.2.outcome rules).reply = .error (.fault e) := by
  induction plan with
  | done o => exact .inl ⟨passes e faulted, by simp [operands]⟩
  | perform x next ih =>
    obtain ⟨ends, later⟩ := passes
    -- If the first operand faults there is no other one. Else it is among those without a fault.
    by_cases faults : x.Faults rules
    · obtain ⟨e', outcome⟩ := faults
      obtain ⟨u, ended⟩ := ends e' (x.outcome rules).state
      rw [← outcome] at ended
      have same : (.error (.fault e') : Reply β a) = .error (.fault e) := by
        rw [← faulted, run, ended]
        rfl
      cases same
      exact .inr ⟨_, List.mem_cons_self, outcome⟩
    · have quiet : ∀ e, (x.outcome rules).reply ≠ .error (.fault e) :=
        fun e outcome => faults ⟨e, outcome⟩
      rcases ih _ (later _ quiet) faulted with ⟨own, others⟩ | ⟨y, member, outcome⟩
      · refine .inl ⟨own, ?_⟩
        simp only [operands, List.forall_mem_cons]
        exact ⟨faults, others⟩
      · exact .inr ⟨y, List.mem_cons_of_mem _ member, outcome⟩

theorem ends_same_fault (e : Exception) (t : State β) :
    ∃ u, (done ⟨.error (.fault e), t⟩ : Plan β a) = done ⟨.error (.fault e), u⟩ := ⟨t, rfl⟩

theorem passes_last (x : Application β a) : (perform x done).Passes :=
  ⟨ends_same_fault, fun _ quiet => Outcome.frameless_of_quiet quiet⟩

theorem passes_keeping {x : Application β b} {use : Action β b → Outcome β a}
    (keeps : ∀ f t, ∃ u, use (fun _ _ _ => ⟨.error f, t⟩) = ⟨.error f, u⟩)
    (own : ∀ v t, (use fun _ _ _ => ⟨.ok v, t⟩).Frameless) : (once x use).Passes := by
  refine ⟨fun e t => ?_, fun o quiet => ?_⟩
  · obtain ⟨u, same⟩ := keeps (.fault e) t
    exact ⟨u, congrArg done same⟩
  · obtain ⟨f | v, t⟩ := o
    · obtain ⟨u, same⟩ := keeps f t
      change (use fun _ _ _ => ⟨.error f, t⟩).Frameless
      rw [same]
      rintro e ⟨⟩
      exact absurd rfl (quiet e)
    · exact own v t

theorem passes_andThen {o : Outcome β b} {f : b.Value β → State β → Plan β a}
    (quiet : ∀ e, o.reply ≠ .error (.fault e)) (next : ∀ v t, (f v t).Passes) :
    (andThen o f).Passes := by
  rcases o with ⟨(_ | _ | _ | e | _) | v, t⟩
  case error.fault => exact absurd rfl (quiet e)
  case ok => exact next v t
  all_goals rintro _ ⟨⟩

theorem passes_perform_andThen {x : Application β b} {f : b.Value β → State β → Plan β a}
    (next : ∀ v t, (f v t).Passes) : (perform x fun o => andThen o f).Passes :=
  ⟨ends_same_fault, fun _ quiet => passes_andThen quiet next⟩

theorem sumFrom_passes (n : Nat) (start : Cursor) (ps : List (Parser β a)) (s : State β) :
    (sumFrom depth env n start ps s).Passes := by
  induction ps generalizing s with
  | nil => rintro _ ⟨⟩
  | cons p ps ih =>
    refine ⟨ends_same_fault, fun o quiet => ?_⟩
    rcases o with ⟨(_ | _ | _ | e | _) | v, t⟩
    case error.fault => exact absurd rfl (quiet e)
    case error.fail =>
      dsimp only [orElse]
      split
      · rintro _ ⟨⟩
      · exact ih _
    all_goals rintro _ ⟨⟩

theorem favoredRest_passes (preference : Preference) (start : Cursor) (ps : List (Parser β a))
    (v : a.Value β) (best : Cursor) (s : State β) :
    (favoredRest depth env preference start ps v best s).Passes := by
  induction ps generalizing v best s with
  | nil => rintro _ ⟨⟩
  | cons p ps ih =>
    refine ⟨ends_same_fault, fun o quiet => ?_⟩
    rcases o with ⟨(_ | _ | _ | e | _) | w, t⟩
    case error.fault => exact absurd rfl (quiet e)
    case error.fail => exact ih v best t
    case ok =>
      dsimp only
      split
      · exact ih w t.cursor t
      · exact ih v best t
    all_goals rintro _ ⟨⟩

theorem favoredFrom_passes (preference : Preference) (start : Cursor) (ps : List (Parser β a))
    (error : Option Diagnostic) (s : State β) :
    (favoredFrom depth env preference start ps error s).Passes := by
  induction ps generalizing error s with
  | nil => rintro _ ⟨⟩
  | cons p ps ih =>
    refine ⟨ends_same_fault, fun o quiet => ?_⟩
    rcases o with ⟨(_ | _ | _ | e | _) | v, t⟩
    case error.fault => exact absurd rfl (quiet e)
    case error.fail => exact ih _ _
    case ok => exact favoredRest_passes preference start ps v t.cursor t
    all_goals rintro _ ⟨⟩

theorem loopFrom_passes (p : Parser β b) (min : Nat) (max : Option Nat)
    (finish : List (b.Value β) → a.Value β) (fuel count : Nat) (values : List (b.Value β))
    (s : State β) : (loopFrom depth env p min max finish fuel count values s).Passes := by
  induction fuel generalizing count values s with
  | zero => rintro _ ⟨⟩
  | succ fuel ih =>
    simp only [loopFrom]
    split
    · rintro _ ⟨⟩
    · refine ⟨ends_same_fault, fun o quiet => ?_⟩
      rcases o with ⟨(_ | _ | _ | e | _) | v, t⟩
      case error.fault => exact absurd rfl (quiet e)
      case error.fail =>
        dsimp only
        split <;> rintro _ ⟨⟩
      case ok =>
        dsimp only
        split
        · rintro _ ⟨⟩
        · exact ih _ _ t
      all_goals rintro _ ⟨⟩

theorem nestedFrom_passes (opening closing body : Parser β .unit) (fuel level : Nat)
    (s : State β) : (nestedFrom depth env opening closing body fuel level s).Passes := by
  induction fuel generalizing level s with
  | zero => cases level <;> rintro _ ⟨⟩
  | succ fuel ih =>
    cases level with
    | zero => rintro _ ⟨⟩
    | succ level =>
      refine ⟨ends_same_fault, fun o quiet => ?_⟩
      rcases o with ⟨e | v, t⟩ <;> dsimp only
      case ok =>
        split
        · exact ih level t
        · exact frameless_faulty rfl
      case error =>
        split
        · refine ⟨ends_same_fault, fun o quiet => ?_⟩
          rcases o with ⟨e | v, u⟩ <;> dsimp only
          case ok =>
            split
            · exact ih (level + 2) u
            · exact frameless_faulty rfl
          case error =>
            split
            · refine passes_perform_andThen fun _ v => ?_
              split
              · exact ih (level + 1) v
              · exact frameless_faulty rfl
            · exact frameless_of_quiet quiet
        · exact frameless_of_quiet quiet

theorem inside_passes (p : Parser β a) (inner : Env) (first : Nat) (s : State β) :
    (inside depth p inner first s).Passes :=
  passes_keeping (fun f t => by cases f <;> exact ⟨_, rfl⟩) fun v t => by rintro _ ⟨⟩

end Plan

namespace Parser

open Plan Outcome

variable (rules : Rules β) (depth : Nat) (env : Env) (n : Nat) (s : State β)

theorem label_passes (l : String) (p : Parser β a) :
    ((label l p).plan rules depth env n s).Passes := by
  rw [plan]
  refine passes_keeping (fun f t => ?_) fun v t => by rintro _ ⟨⟩
  cases f with
  | fail =>
    simp only [Action.label, Action.orElse]
    split <;> exact ⟨_, rfl⟩
  | _ => exact ⟨t, rfl⟩

theorem ifElse_passes (p : Parser β b) (yes : b.Value β → Parser β a) (no : Parser β a) :
    ((ifElse p yes no).plan rules depth env n s).Passes := by
  refine ⟨ends_same_fault, fun o quiet => ?_⟩
  rcases o with ⟨(_ | _ | _ | e | _) | v, t⟩ <;> dsimp only
  case error.fault => exact absurd rfl (quiet e)
  case ok => exact passes_last _
  case error.fail =>
    split
    case isTrue => rintro _ ⟨⟩
    case isFalse uncommitted =>
      simp only [Action.ifElse, Action.run, if_neg uncommitted]
      refine passes_keeping (fun f u => ?_) fun v u => by rintro _ ⟨⟩
      cases f <;> exact ⟨_, rfl⟩
  all_goals rintro _ ⟨⟩

theorem tryCatch_passes (p : Parser β a)
    (handler : Option (a.Value β) → Key → Handling β (a.Value β))
    (resume : Option (a.Value β) → Key → Parser β a) :
    ((tryCatch p handler resume).plan rules depth env n s).Passes := by
  refine ⟨ends_same_fault, fun o quiet => ?_⟩
  rcases o with ⟨(_ | sig | _ | e | _) | v, t⟩ <;> dsimp only
  case error.fault => exact absurd rfl (quiet e)
  case error.signal =>
    split
    · exact passes_last _
    · -- The handler does not resume, so it gives a value or raises the signal again.
      rename_i decided
      intro e faulted
      simp only [Action.tryCatch, Action.run] at faulted
      split at faulted
      · cases faulted
      · exact absurd ‹_› (decided)
      · cases faulted
  all_goals rintro _ ⟨⟩

theorem parseTokens_passes (lexer : Parser β (.list .lexeme)) (p : Parser β a) (eofTitle : String)
    (render : Token → String) (origin : String) :
    ((parseTokens lexer p eofTitle render origin).plan rules depth env n s).Passes := by
  refine passes_perform_andThen fun lexemes t => ?_
  split
  · rename_i e window
    exact frameless_faulty (Env.frames_of_window window)
  · exact inside_passes p _ 0 t

theorem scanChars_passes (outer : Parser β b) (p : Parser β a) (origin : String) :
    ((scanChars outer p origin).plan rules depth env n s).Passes := by
  refine passes_perform_andThen fun _ t => ?_
  split
  · rename_i e window
    exact frameless_faulty (Env.frames_of_window window)
  · exact inside_passes p _ s.offset t

theorem rule_passes (name : String) : ((rule name).plan rules depth env n s).Passes := by
  cases depth with
  | zero => rintro _ ⟨⟩
  | succ depth =>
    simp only [plan]
    split
    · exact passes_last _
    · exact frameless_faulty rfl

theorem plan_passes (p : Parser β a) (unnamed : p.name? = none) :
    (p.plan rules depth env n s).Passes := by
  cases p with
  | ret | reject | raise | abort | getIndex => rintro _ ⟨⟩
  | fault message => exact frameless_faulty rfl
  | eof l => exact Action.eof_frameless
  | token f => exact Action.token_frameless f
  | char k f => exact Action.char_frameless k f
  | pattern p l => exact Action.pattern_frameless p l
  | atomize | lookahead | stepBy | peek | traced | lazy =>
    rw [plan]
    exact passes_keeping (fun _ _ => ⟨_, rfl⟩) fun _ _ => by rintro _ ⟨⟩
  | matched p =>
    rw [plan]
    exact passes_keeping (fun _ _ => ⟨_, rfl⟩) Action.matched_frameless
  | isConsumed message p =>
    rw [plan]
    exact passes_keeping (fun _ _ => ⟨_, rfl⟩) fun v t => Action.isConsumed_frameless v t message
  | notConsumed message p =>
    rw [plan]
    exact passes_keeping (fun _ _ => ⟨_, rfl⟩) fun v t => Action.notConsumed_frameless v t message
  | test check l p =>
    rw [plan]
    exact passes_keeping (fun _ _ => ⟨_, rfl⟩) fun v t => Action.test_frameless v t check l
  | tryMap f p =>
    rw [plan]
    exact passes_keeping (fun _ _ => ⟨_, rfl⟩) fun v t => Action.tryMap_frameless v t f
  | lex p reader =>
    rw [plan]
    exact passes_keeping (fun _ _ => ⟨_, rfl⟩) fun v t => Action.lex_frameless v t reader
  | label l p => exact label_passes rules depth env n s l p
  | named name p => cases unnamed
  | bind p f => exact passes_perform_andThen fun v t => passes_last _
  | ifElse p yes no => exact ifElse_passes rules depth env n s p yes no
  | tryCatch p handler resume => exact tryCatch_passes rules depth env n s p handler resume
  | sum k ps => exact sumFrom_passes n s.cursor _ s
  | favored preference k ps => exact favoredFrom_passes preference s.cursor _ none s
  | loop p min max finish => exact loopFrom_passes p min max finish _ 0 [] s
  | nested opening closing body =>
    exact passes_perform_andThen fun _ t => nestedFrom_passes opening closing body _ 1 t
  | parseTokens lexer p eofTitle render origin =>
    exact parseTokens_passes rules depth env n s lexer p eofTitle render origin
  | scanChars outer p origin => exact scanChars_passes rules depth env n s outer p origin
  | rule name => exact rule_passes rules depth env n s name

end Parser

namespace Application

variable {rules : Rules β} {x : Application β a}

theorem last_of_faults {y : (b : Ty) × Application β b}
    (operand : y ∈ (x.plan rules).operands rules) (faulted : y.2.Faults rules) :
    x.Faults rules ∧ ((x.plan rules).operands rules).getLast? = some y := by
  obtain ⟨e, outcome⟩ := faulted
  -- No construct goes on after a fault, so nothing has been performed after the operand.
  obtain ⟨before, after, performed⟩ := List.append_of_mem operand
  have strict := x.parser.plan_strict rules x.depth x.env x.lookahead x.state
  obtain ⟨rfl, g, reply, kept⟩ := Plan.ends_at_operand strict performed outcome rfl fun _ => rfl
  rw [performed, List.getLast?_concat]
  cases kept with
  | fault _ frames => exact ⟨⟨_, x.plan_run rules ▸ reply⟩, rfl⟩

theorem fault_cases {e : Exception} (faulted : (x.outcome rules).reply = .error (.fault e)) :
    (e.frames = [] ∧ x.frame? rules = none ∧
        ∀ y ∈ (x.plan rules).operands rules, ¬ y.2.Faults rules) ∨
      ∃ y ∈ (x.plan rules).operands rules, ∃ e', (y.2.outcome rules).reply = .error (.fault e') ∧
        e.frames = e'.frames ++ (x.frame? rules).toList := by
  obtain ⟨p, depth, env, n, s⟩ := x
  cases name : p.name? with
  | none =>
    have noFrame : frame? rules ⟨p, depth, env, n, s⟩ = none := by
      rw [frame?, name, Option.map_none]
    have passes := p.plan_passes rules depth env n s name
    rw [← plan_run] at faulted
    rw [noFrame]
    rcases Plan.passes_run passes faulted with ⟨none, own⟩ | ⟨y, operand, outcome⟩
    · exact .inl ⟨none, rfl, own⟩
    · exact .inr ⟨y, operand, e, outcome, (List.append_nil _).symm⟩
  | some name =>
    cases p with
    | named m p =>
      have whole : outcome rules ⟨.named m p, depth, env, n, s⟩ =
        Action.named m (p.eval (rules.calls depth)) env n s := rfl
      refine .inr ⟨⟨_, p, depth, env, n, s⟩, List.mem_cons_self, ?_⟩
      rw [whole] at faulted
      rw [frame?, whole]
      rcases ran : p.eval (rules.calls depth) env n s with ⟨(_ | _ | _ | e' | _) | v, t⟩
      case error.fault =>
        simp only [Action.named, ran] at faulted ⊢
        cases faulted
        exact ⟨e', congrArg Outcome.reply ran, rfl⟩
      all_goals
        simp only [Action.named, ran] at faulted
        cases faulted
    | _ => cases name

end Application

namespace Raising

variable {rules : Rules β} {x : Application β a} {path path' : List ((b : Ty) × Application β b)}

theorem faults (raising : Raising rules x path) : x.Faults rules := by
  induction raising with
  | here faulted => exact faulted
  | inside operand _ ih => exact (Application.last_of_faults operand ih).1

theorem unique (raising : Raising rules x path) (other : Raising rules x path') :
    path = path' := by
  induction raising generalizing path' with
  | here _ own =>
    cases other with
    | here => rfl
    | inside operand inner => exact absurd inner.faults (own _ operand)
  | inside operand inner ih =>
    cases other with
    | here _ own => exact absurd inner.faults (own _ operand)
    | inside operand' inner' =>
      -- Both paths come from the operand that faults, and that is the last one.
      have last := (Application.last_of_faults operand inner.faults).2
      have last' := (Application.last_of_faults operand' inner'.faults).2
      cases Option.some.inj (last.symm.trans last')
      rw [ih inner']

end Raising

namespace Application

variable (rules : Rules β) (x : Application β a)

def Delegates : Prop :=
  match x.parser.module? with
  | none => ∀ y ∈ (x.plan rules).operands rules, y.2.env = x.env
  | some origin => ∃ first inner, (x.plan rules).operands rules = first :: inner ∧
      first.2.env = x.env ∧ ∀ y ∈ inner, y.2.env.origin = origin

theorem delegates : x.Delegates rules := by
  obtain ⟨p, depth, env, n, s⟩ := x
  unfold Delegates
  cases module : p.module? with
  | none =>
    have performs : (p.plan rules depth env n s).Performs fun y => y.env = env :=
      Parser.plan_performs rules (fun _ _ _ _ _ same => same module) fun _ _ _ _ _ => rfl
    exact performs.operands rules
  | some origin =>
    cases p with
    | parseTokens lexer p eofTitle render _ =>
      cases module
      refine ⟨_, _, rfl, rfl, Plan.Performs.operands (Q := fun y => y.env.origin = origin) ?_ rules⟩
      refine Plan.performs_andThen fun lexemes t => ?_
      split
      · trivial
      · exact Plan.performs_once rfl
    | scanChars outer p _ =>
      cases module
      refine ⟨_, _, rfl, rfl, Plan.Performs.operands (Q := fun y => y.env.origin = origin) ?_ rules⟩
      refine Plan.performs_andThen fun _ t => ?_
      split
      · trivial
      · exact Plan.performs_once rfl
    | _ => cases module

end Application

/-- The frames of a fault are those of the named applications in progress, the innermost first. The
context is that of the application around it unless that has made an input of its own. -/
theorem Application.frames_of_fault (rules : Rules β) {x : Application β a} {e : Exception}
    {t : State β} (faulted : x.outcome rules = ⟨.error (.fault e), t⟩) :
    (∃ path, Raising rules x path ∧ (∀ other, Raising rules x other → other = path) ∧
      e.frames = path.filterMap fun y => y.2.frame? rules) ∧
      ∀ (b : Ty) (y : Application β b), y.Delegates rules := by
  refine ⟨?_, fun b y => y.delegates rules⟩
  suffices found : ∀ e, (x.outcome rules).reply = .error (.fault e) →
      ∃ path, Raising rules x path ∧ e.frames = path.filterMap fun y => y.2.frame? rules by
    obtain ⟨path, raising, frames⟩ := found e (congrArg Outcome.reply faulted)
    exact ⟨path, raising, fun other raising' => raising'.unique raising, frames⟩
  clear faulted
  -- The path is that of the operand which has faulted, and the frames are its own, with one more
  -- for the application if that has a name.
  induction x using Application.induct rules with
  | step x ih =>
    intro e faulted
    rcases fault_cases faulted with ⟨none, noFrame, own⟩ | ⟨y, operand, e', outcome, frames⟩
    · exact ⟨_, .here ⟨e, faulted⟩ own, by simp [none, noFrame]⟩
    · obtain ⟨path, raising, frames'⟩ := ih y operand e' outcome
      refine ⟨_, .inside operand raising, ?_⟩
      rw [frames, frames', List.filterMap_append, List.filterMap_cons]
      cases frame? rules x <;> simp

theorem Application.broken_group_leaves_frames :
    let group : Parser Nat .base := .named "group"
      (Parser.seqRight (Scanner.char '(') (.plus [.rule "group", .fault "broken"]))
    let document : Parser Nat .base :=
      .named "document" (.scanChars (Scanner.string "((x") (.rule "group") "groups")
    let env : Env := Env.ofText "((x".toList "text" (PositionMap.ofSource "((x".toList)
    let x : Application Nat .base := ⟨document, 5, env, 1, env.stateAt .start⟩
    ∃ e t, x.outcome [("group", group)] = ⟨.error (.fault e), t⟩ ∧
      e.frames.map (fun f => (f.origin, f.index, f.parser)) =
        [("groups", 2, "group"), ("groups", 2, "group"), ("text", 3, "document")] ∧
      ∃ path, Raising [("group", group)] x path ∧
        e.frames = path.filterMap fun y => y.2.frame? [("group", group)] := by
  intro group document env x
  have told : (((x.outcome [("group", group)]).reply.map fun _ => []).tryCatch fun f =>
      .ok ((f.exception env x.state).frames.map fun f => (f.origin, f.index, f.parser))).toOption =
      some [("groups", 2, "group"), ("groups", 2, "group"), ("text", 3, "document")] := by
    decide +kernel
  rcases faulted : x.outcome [("group", group)] with ⟨(_ | _ | _ | e | _) | v, t⟩
  case error.fault =>
    rw [faulted] at told
    obtain ⟨⟨path, raising, -, frames⟩, -⟩ := frames_of_fault _ faulted
    exact ⟨e, t, rfl, Option.some.inj told, path, raising, frames⟩
  all_goals
    rw [faulted] at told
    cases told

end Descent
