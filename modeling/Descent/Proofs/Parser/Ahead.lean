import Descent.Proofs.Parser.Furthest
import Descent.Proofs.Parser.Memory
import Descent.Proofs.Parser.Plan

set_option autoImplicit false

namespace Descent

variable {β : Type} {a b : Ty}

def Env.Above (env : Env) (n first : Nat) : Prop := ∀ k, first ≤ k → n ≤ env.index k

def Env.Ordered (env : Env) : Prop := ∀ j k, j ≤ k → env.index j ≤ env.index k

theorem Env.Above.later {env : Env} {n first later : Nat} (above : env.Above n first)
    (le : first ≤ later) : env.Above n later :=
  fun k ge => above k (Nat.le_trans le ge)

/-- A run from `s` does not end before the place where it began, and does not point there when it
fails. -/
structure Outcome.Ahead (env : Env) (s : State β) (o : Outcome β a) : Prop where
  offset : s.offset ≤ o.state.offset
  slot : o.reply = .error .fail → ∀ n, env.Above n s.offset →
    ∀ d, o.state.error = some d → n ≤ d.index

namespace Outcome.Ahead

variable {env : Env} {s t u : State β} {o : Outcome β a}

theorem after (ahead : o.Ahead env t) (le : s.offset ≤ t.offset) : o.Ahead env s :=
  ⟨Nat.le_trans le ahead.offset, fun failed n above => ahead.slot failed n (above.later le)⟩

theorem of_ne_fail (le : s.offset ≤ o.state.offset) (ended : o.reply ≠ .error .fail) :
    o.Ahead env s :=
  ⟨le, fun failed => absurd failed ended⟩

theorem ok {v : a.Value β} (le : s.offset ≤ t.offset) : (Action.ok v t).Ahead env s :=
  of_ne_fail le (by rintro ⟨⟩)

theorem faulty {e : Exception} (le : s.offset ≤ t.offset) :
    (Action.faulty e t : Outcome β a).Ahead env s :=
  of_ne_fail le (by rintro ⟨⟩)

theorem reject (truthful : t.Truthful env) (le : s.offset ≤ t.offset) (why : Rejection) :
    (Action.fail (t.reject env why) : Outcome β a).Ahead env s := by
  have offset : (t.reject env why).offset = t.offset :=
    congrArg Cursor.offset (State.reject_cursor env t why)
  constructor
  · exact Nat.le_trans le (Nat.le_of_eq offset.symm)
  · intro _ n above d left
    rw [(truthful.reject why).2 d left]
    exact above _ le

theorem error {e : Failure β} (ahead : (⟨.error e, t⟩ : Outcome β b).Ahead env s)
    (le : s.offset ≤ u.offset) (same : u.error = t.error) :
    (⟨.error e, u⟩ : Outcome β a).Ahead env s := by
  refine ⟨le, fun failed n above d left => ?_⟩
  cases failed
  exact ahead.slot rfl n above d (same ▸ left)

end Outcome.Ahead

namespace Action

variable {x : Action β a} {env : Env} {s : State β} {n : Nat}

theorem eof_ahead (sound : s.Sound env) (l : String) :
    (eof l env n s : Outcome β .unit).Ahead env s := by
  unfold eof
  split
  · exact .ok (Nat.le_refl _)
  · exact .reject sound.truthful (Nat.le_refl _) _

theorem token_ahead (sound : s.Sound env) (f : Lexeme → Option (a.Value β)) :
    (token f env n s).Ahead env s := by
  unfold token
  split
  · exact .faulty (Nat.le_refl _)
  · split
    · exact .ok (Nat.le_add_right _ _)
    · exact .reject sound.truthful (Nat.le_refl _) _

theorem char_ahead (sound : s.Sound env) (k : CharClass) (f : Char → a.Value β) :
    (char k f env n s).Ahead env s := by
  unfold char
  split
  · exact .faulty (Nat.le_refl _)
  · split
    · exact .ok (Nat.le_add_right _ _)
    · exact .reject sound.truthful (Nat.le_refl _) _

theorem pattern_ahead (sound : s.Sound env) (p : Pattern) (l : String) :
    (pattern p l env n s : Outcome β .unit).Ahead env s := by
  unfold pattern
  split
  · exact .faulty (Nat.le_refl _)
  · split
    · exact .ok (Nat.le_add_right _ _)
    · exact .reject sound.truthful (Nat.le_refl _) _

section

variable {r : Reply β a} {t : State β} (ahead : (⟨r, t⟩ : Outcome β a).Ahead env s)

include ahead

theorem matched_ahead (ran : x.run env s = ⟨r, t⟩) : (matched x env n s).Ahead env s := by
  simp only [matched, andThen, ran]
  cases r with
  | error e => exact ahead.error ahead.offset rfl
  | ok v =>
    dsimp only
    split
    · exact .faulty ahead.offset
    · exact .ok ahead.offset

theorem atomize_ahead (ran : x.run env s = ⟨r, t⟩) : (atomize x env n s).Ahead env s := by
  simp only [atomize, ran]
  cases r with
  | error e => exact ahead.error (Nat.le_refl _) rfl
  | ok v => exact .ok ahead.offset

theorem stepBy_ahead (m : Nat) (ran : x.run env s = ⟨r, t⟩) : (stepBy m x env n s).Ahead env s := by
  simp only [stepBy, andThen, ran]
  cases r with
  | error e => exact ahead
  | ok v => exact .ok ahead.offset

theorem peek_ahead (ran : x.run env s = ⟨r, t⟩) : (peek x env n s).Ahead env s := by
  simp only [peek, ran]
  exact ⟨Nat.le_refl _, ahead.slot⟩

theorem label_ahead (sound : t.Sound env) (l : String) (ran : x env n s = ⟨r, t⟩) :
    (label l x env n s).Ahead env s := by
  simp only [label, orElse, ran]
  rcases r with (_ | _ | _ | _ | _) | v
  case error.fail =>
    dsimp only
    split
    · exact ahead
    · unfold relabelError
      split
      case h_1 d left =>
        refine ⟨ahead.offset, fun _ n above d' made => ?_⟩
        cases made
        rw [Diagnostic.index_relabel]
        exact ahead.slot rfl n above d left
      case h_2 => exact .reject sound.truthful ahead.offset _
  all_goals exact ahead

theorem isConsumed_ahead (sound : t.Sound env) (message : String) (ran : x.run env s = ⟨r, t⟩) :
    (isConsumed message x env n s).Ahead env s := by
  simp only [isConsumed, andThen, ran]
  cases r with
  | error e => exact ahead
  | ok v =>
    dsimp only
    split
    · exact ahead
    · exact .reject sound.truthful ahead.offset _

theorem notConsumed_ahead (sound : t.Sound env) (message : String) (ran : x.run env s = ⟨r, t⟩) :
    (notConsumed message x env n s).Ahead env s := by
  simp only [notConsumed, andThen, ran]
  cases r with
  | error e => exact ahead
  | ok v =>
    dsimp only
    split
    · exact .reject (t := t.restore s.cursor) sound.truthful (Nat.le_refl s.offset) _
    · exact ahead

theorem test_ahead (sound : t.Sound env) (check : a.Value β → Bool) (l : Option String)
    (ran : x.run env s = ⟨r, t⟩) : (test check l x env n s).Ahead env s := by
  simp only [test, andThen, ran]
  cases r with
  | error e => exact ahead
  | ok v =>
    dsimp only
    split
    · exact ahead
    · exact .reject (t := t.restore s.cursor) sound.truthful (Nat.le_refl s.offset) _

theorem tryMap_ahead (f : a.Value β → Except UserError (b.Value β)) (ran : x.run env s = ⟨r, t⟩) :
    (tryMap f x env n s).Ahead env s := by
  simp only [tryMap, andThen, ran]
  cases r with
  | error e => exact ahead.error ahead.offset rfl
  | ok v =>
    dsimp only
    split
    · exact .ok ahead.offset
    · exact .of_ne_fail ahead.offset (by rintro ⟨⟩)

theorem lex_ahead (reader : TokenReader) (ran : x.run env s = ⟨r, t⟩) :
    (lex x reader env n s).Ahead env s := by
  simp only [lex, andThen, ran]
  cases r with
  | error e => exact ahead.error ahead.offset rfl
  | ok v =>
    dsimp only
    split
    · exact .faulty ahead.offset
    · split
      · exact .faulty ahead.offset
      · exact .ok ahead.offset

theorem traced_ahead (hook : TraceEvent β a → List (Note β)) (ran : x env n s = ⟨r, t⟩) :
    (traced x hook env n s).Ahead env s := by
  simp only [traced, ran]
  exact ⟨ahead.offset, ahead.slot⟩

theorem named_ahead (name : String) (ran : x env n s = ⟨r, t⟩) :
    (named name x env n s).Ahead env s := by
  simp only [named, ran]
  rcases r with (_ | _ | _ | _ | _) | v
  case error.fault => exact .faulty ahead.offset
  all_goals exact ahead

end

end Action

inductive Application.Throughout (rules : Rules β) (P : {a : Ty} → Application β a → Prop) :
    {a : Ty} → Application β a → Prop
  | intro {a : Ty} {x : Application β a} (here : P x)
    (inside : ∀ y ∈ (x.plan rules).operands rules, Throughout rules @P y.2) : Throughout rules @P x

/-- An alternation that runs out of branches has been told something by one of them, or has found
nothing behind; tokens do not lie before the place where their lexer began. -/
def Parser.Forthright (rules : Rules β) (depth : Nat) (env : Env) (n : Nat) (s : State β) {a : Ty} :
    Parser β a → Prop
  | .sum _ branches =>
    let xs := List.ofFn fun i => (branches i).eval (rules.calls depth)
    ∀ t, Action.sumFrom env n s.cursor xs s = ⟨.error .fail, t⟩ →
      t.cursor.committedFrom s.cursor n = false →
        (∃ d, some d ∈ Action.leftBy env n s.cursor xs s) ∨
          ∀ d, s.error = some d → env.index s.offset ≤ d.index
  | .parseTokens lexer _ _ _ _ =>
    ∀ lexemes t, (lexer.eval (rules.calls depth)).run env s = ⟨.ok lexemes, t⟩ →
      ∀ l ∈ lexemes, env.index s.offset ≤ l.index
  | _ => True

def Application.Forthright (rules : Rules β) (x : Application β a) : Prop :=
  x.parser.Forthright rules x.depth x.env x.lookahead x.state

theorem Application.evolves (rules : Rules β) (x : Application β a) :
    x.state.Evolves (fun _ _ _ _ => True) x.env (x.outcome rules).state :=
  x.parser.eval_evolves rules x.depth x.env x.lookahead x.state

namespace Plan

variable {rules : Rules β} {depth : Nat} {env : Env} {s t : State β}
  {goal : Outcome β a → Prop}

def Keeps (rules : Rules β) (goal : Outcome β a → Prop) : Plan β a → Prop
  | done o => goal o
  | perform x next =>
    x.state.Sound x.env ∧
      ((x.outcome rules).Ahead x.env x.state → (next (x.outcome rules)).Keeps rules goal)

theorem keeps_run {plan : Plan β a} (keeps : plan.Keeps rules goal)
    (operands : ∀ y ∈ plan.operands rules,
      y.2.state.Sound y.2.env → (y.2.outcome rules).Ahead y.2.env y.2.state) :
    goal (plan.run rules) := by
  induction plan with
  | done o => exact keeps
  | perform x next ih =>
    obtain ⟨sound, rest⟩ := keeps
    have ahead := operands ⟨_, x⟩ List.mem_cons_self sound
    exact ih _ (rest ahead) fun y member => operands y (List.mem_cons_of_mem _ member)

theorem Keeps.mono {goal' : Outcome β a → Prop} (weaker : ∀ o, goal o → goal' o) {plan : Plan β a}
    (keeps : plan.Keeps rules goal) : plan.Keeps rules goal' := by
  induction plan with
  | done o => exact weaker o keeps
  | perform x next ih => exact ⟨keeps.1, fun ahead => ih _ (keeps.2 ahead)⟩

theorem keeps_perform {x : Application β b} {next : Outcome β b → Plan β a}
    (sound : x.state.Sound x.env)
    (rest : ∀ r t, x.outcome rules = ⟨r, t⟩ →
      x.state.Evolves (fun _ _ _ _ => True) x.env t →
      (⟨r, t⟩ : Outcome β b).Ahead x.env x.state → (next ⟨r, t⟩).Keeps rules goal) :
    (perform x next).Keeps rules goal := by
  refine ⟨sound, fun ahead => ?_⟩
  have evolves := x.evolves rules
  rcases ran : x.outcome rules with ⟨r, t⟩
  rw [ran] at ahead evolves
  exact rest r t ran evolves ahead

theorem keeps_last {x : Application β a} (sound : x.state.Sound x.env)
    (le : s.offset ≤ x.state.offset) :
    (perform x done).Keeps rules (Outcome.Ahead x.env s) :=
  keeps_perform sound fun _ _ _ _ ahead => ahead.after le

theorem keeps_andThen {o : Outcome β b} {f : b.Value β → State β → Plan β a}
    (ahead : o.Ahead env s)
    (next : ∀ v, o.reply = .ok v → (f v o.state).Keeps rules (Outcome.Ahead env s)) :
    (andThen o f).Keeps rules (Outcome.Ahead env s) := by
  rcases o with ⟨_ | v, t⟩
  · exact ahead.error ahead.offset rfl
  · exact next v rfl

/-- What is known of an alternation of `xs`, whatever it has found in the slot. -/
structure Tried (env : Env) (n : Nat) (xs : List (Action β a)) (s : State β) (o : Outcome β a) :
    Prop where
  offset : s.offset ≤ o.state.offset
  left : ∀ d, some d ∈ Action.leftBy env n s.cursor xs s → ∀ m, env.Above m s.offset → m ≤ d.index
  slot : o.reply = .error .fail → ∀ m, env.Above m s.offset →
    (∀ d, s.error = some d → m ≤ d.index) → ∀ d, o.state.error = some d → m ≤ d.index

theorem sumFrom_keeps (n : Nat) (ps : List (Parser β a)) {s : State β} (sound : s.Sound env) :
    (sumFrom depth env n s.cursor ps s).Keeps rules
      (Tried env n (ps.map (Parser.eval (rules.calls depth))) s) := by
  induction ps generalizing s with
  | nil => exact ⟨Nat.le_refl _, by simp [Action.leftBy], fun _ _ _ found => found⟩
  | cons p ps ih =>
    refine keeps_perform sound fun r t ran evolves ahead => ?_
    rw [Application.outcome_part] at ran
    rcases r with (_ | _ | _ | _ | _) | v
    case error.fail =>
      have here : ∀ m, env.Above m s.offset → ∀ d, t.error = some d → m ≤ d.index :=
        ahead.slot rfl
      dsimp only [orElse]
      by_cases committed : t.cursor.committedFrom s.cursor n = true
      · rw [if_pos committed]
        refine ⟨ahead.offset, fun d member m above => ?_, fun _ m above _ => here m above⟩
        simp only [List.map_cons, Action.leftBy, ran, if_pos committed] at member
        exact here m above d (List.mem_singleton.1 member).symm
      · rw [if_neg committed]
        have next : ((t.mergeError s.error).restore s.cursor).Sound env :=
          sound.evolves (evolves.merge fun _ left => left).back
        refine (ih next).mono fun o kept => ⟨kept.offset, fun d member m above => ?_,
          fun failed m above found => ?_⟩
        · simp only [List.map_cons, Action.leftBy, ran, if_neg committed] at member
          rcases List.mem_cons.1 member with first | later
          · exact here m above d first.symm
          · exact kept.left d later m above
        · exact kept.slot failed m above (State.index_mergeError _ found (here m above))
    all_goals
      refine ⟨ahead.offset, fun d member => ?_, by rintro ⟨⟩⟩
      simp [Action.leftBy, ran] at member

theorem favoredRest_keeps (preference : Preference) (start : State β) (ps : List (Parser β a))
    (v : a.Value β) {best : Cursor} (further : start.offset ≤ best.offset) {s : State β}
    (sound : s.Sound env) :
    (favoredRest depth env preference start.cursor ps v best s).Keeps rules
      (Outcome.Ahead env start) := by
  induction ps generalizing v best s with
  | nil => exact Outcome.Ahead.ok (t := s.restore best) further
  | cons p ps ih =>
    refine keeps_perform (sound.restore start.cursor) fun r t _ evolves ahead => ?_
    have next := (sound.restore start.cursor).evolves evolves
    have moved : start.offset ≤ t.offset := ahead.offset
    rcases r with (_ | _ | _ | _ | _) | w
    case error.fail => exact ih v further next
    case ok =>
      dsimp only
      split
      · exact ih w moved next
      · exact ih v further next
    all_goals exact .of_ne_fail moved (by rintro ⟨⟩)

theorem favoredFrom_keeps (preference : Preference) (ps : List (Parser β a))
    {e : Option Diagnostic} {s u : State β} (sound : u.Sound env) (same : u.cursor = s.cursor)
    (evolves : u.Evolves (fun _ _ _ _ => True) env s)
    (sofar : ∀ d, e = some d → u.error = some d)
    (ahead : ∀ m, env.Above m s.offset → ∀ d, e = some d → m ≤ d.index) :
    (favoredFrom depth env preference s.cursor ps e s).Keeps rules (Outcome.Ahead env s) := by
  -- `u` holds the failures merged so far.
  induction ps generalizing e s u with
  | nil => exact ⟨Nat.le_refl _, fun _ => ahead⟩
  | cons p ps ih =>
    have begins := sound.evolves evolves
    refine keeps_perform begins fun r t _ further ends => ?_
    rcases r with (_ | _ | _ | _ | _) | v
    case ok =>
      exact favoredRest_keeps preference s ps v ends.offset (begins.evolves further)
    case error.fail =>
      have merged := ((evolves.trans further).merge sofar).back
      rw [same] at merged
      have again : ((t.mergeError e).restore s.cursor).Evolves (fun _ _ _ _ => True) env
          (((t.mergeError e).setError none).restore s.cursor) := State.Evolves.refl.clear
      refine Keeps.mono (fun o kept => kept.after (Nat.le_refl _))
        (ih (s := ((t.mergeError e).setError none).restore s.cursor) (sound.evolves merged) rfl
          again (fun d left => left) fun m above => ?_)
      exact State.index_mergeError _ (ahead m above) (ends.slot rfl m above)
    all_goals exact .of_ne_fail ends.offset (by rintro ⟨⟩)

theorem loopFrom_keeps (p : Parser β b) (min : Nat) (max : Option Nat)
    (finish : List (b.Value β) → a.Value β) (fuel count : Nat) (values : List (b.Value β))
    {s : State β} (sound : s.Sound env) :
    (loopFrom depth env p min max finish fuel count values s).Keeps rules
      (Outcome.Ahead env s) := by
  induction fuel generalizing count values s with
  | zero => exact .of_ne_fail (Nat.le_refl _) (by rintro ⟨⟩)
  | succ fuel ih =>
    simp only [loopFrom]
    split
    · exact .ok (Nat.le_refl _)
    · refine keeps_perform sound fun r t _ evolves ahead => ?_
      rcases r with (_ | _ | _ | _ | _) | v
      case ok =>
        dsimp only
        split
        · exact .ok ahead.offset
        · exact (ih _ _ (sound.evolves evolves)).mono fun o kept => kept.after ahead.offset
      case error.fail =>
        dsimp only
        split
        · exact ahead.error ahead.offset rfl
        · exact .ok (t := t.restore s.cursor) (Nat.le_refl s.offset)
      all_goals exact .of_ne_fail ahead.offset (by rintro ⟨⟩)

theorem nestedFrom_keeps (opening closing body : Parser β .unit) (fuel level : Nat) {s : State β}
    (sound : s.Sound env) :
    (nestedFrom depth env opening closing body fuel level s).Keeps rules
      (Outcome.Ahead env s) := by
  induction fuel generalizing level s with
  | zero =>
    cases level with
    | zero => exact .ok (Nat.le_refl _)
    | succ => exact .of_ne_fail (Nat.le_refl _) (by rintro ⟨⟩)
  | succ fuel ih =>
    cases level with
    | zero => exact .ok (Nat.le_refl _)
    | succ level =>
      have goesOn : ∀ level {u : State β}, u.Sound env → s.offset ≤ u.offset →
          (nestedFrom depth env opening closing body fuel level u).Keeps rules
            (Outcome.Ahead env s) :=
        fun level u sound le => (ih level sound).mono fun o kept => kept.after le
      refine keeps_perform sound fun r t _ toT aheadT => ?_
      have soundT := sound.evolves toT
      rcases r with e | v <;> dsimp only
      case ok =>
        split
        · exact goesOn level soundT aheadT.offset
        · exact .faulty aheadT.offset
      case error =>
        split
        case isFalse => exact aheadT
        case isTrue =>
          refine keeps_perform soundT fun r u _ toU aheadU => ?_
          have soundU := soundT.evolves toU
          have aheadU := aheadU.after aheadT.offset
          rcases r with e | v <;> dsimp only
          case ok =>
            split
            · exact goesOn (level + 2) soundU aheadU.offset
            · exact .faulty aheadU.offset
          case error =>
            split
            case isFalse => exact aheadU
            case isTrue =>
              refine keeps_perform soundU fun r v _ toV aheadV => ?_
              have aheadV := aheadV.after aheadU.offset
              refine keeps_andThen aheadV fun w _ => ?_
              dsimp only
              split
              · exact goesOn (level + 1) (soundU.evolves toV) aheadV.offset
              · exact .faulty aheadV.offset

theorem inside_keeps (p : Parser β a) {inner : Env} {first : Nat} {s t : State β}
    (le : s.offset ≤ t.offset) (places : ∀ k, first ≤ k → s.offset ≤ inner.index k)
    (above : ∀ m, env.Above m s.offset → inner.Above m first) :
    (inside depth p inner first t).Keeps rules (Outcome.Ahead env s) := by
  refine keeps_perform (.enter t inner first) fun r u _ _ ahead => ?_
  have left : Action.inside (fun _ _ _ => ⟨r, u⟩) inner first t = Action.leave inner t u r :=
    Action.inside_of_run rfl
  show (Action.inside (fun _ _ _ => ⟨r, u⟩) inner first t).Ahead env s
  rw [left]
  rcases r with (_ | _ | _ | _ | _) | v
  case error.fail =>
    exact ⟨places u.offset ahead.offset, fun _ m outside => ahead.slot rfl m (above m outside)⟩
  all_goals exact .of_ne_fail le (by rintro ⟨⟩)

end Plan

namespace Parser

variable {rules : Rules β} {depth : Nat} {env : Env} {n : Nat} {s : State β}

theorem sum_ahead {k : Nat} {branches : Fin k → Parser β a}
    (forthright : (sum k branches).Forthright rules depth env n s) (sound : s.Sound env)
    (operands : ∀ y ∈ ((sum k branches).plan rules depth env n s).operands rules,
      y.2.state.Sound y.2.env → (y.2.outcome rules).Ahead y.2.env y.2.state) :
    ((sum k branches).eval (rules.calls depth) env n s).Ahead env s := by
  have listed : (List.ofFn branches).map (eval (rules.calls depth)) =
      List.ofFn fun i => (branches i).eval (rules.calls depth) := List.map_ofFn
  have tried := Plan.keeps_run (Plan.sumFrom_keeps n (List.ofFn branches) sound) operands
  rw [Plan.sumFrom_run, listed] at tried
  refine ⟨tried.offset, fun failed m above d slot => ?_⟩
  rcases ran : Action.sumFrom env n s.cursor
    (List.ofFn fun i => (branches i).eval (rules.calls depth)) s with ⟨r, t⟩
  have outcome : (sum k branches).eval (rules.calls depth) env n s = ⟨r, t⟩ := ran
  rw [ran] at tried
  rw [outcome] at failed slot
  obtain rfl : r = .error .fail := failed
  cases committed : t.cursor.committedFrom s.cursor n with
  | true =>
    have last := Action.sumFrom_committed ran committed
    refine tried.left d ?_ m above
    rw [← slot]
    exact List.mem_of_getLast? last
  | false =>
    have regular : ∀ x ∈ List.ofFn fun i => (branches i).eval (rules.calls depth),
        x.Regular fun _ _ _ _ => True := by
      intro x member
      obtain ⟨i, rfl⟩ := List.mem_ofFn.mp member
      exact (branches i).eval_evolves rules depth
    obtain ⟨-, reached⟩ := Action.sumFrom_exhausted regular sound.numbered ran committed
    rcases forthright t ran committed with ⟨e, told⟩ | notBehind
    · obtain ⟨d', slot', le⟩ := reached (some e) told e rfl
      obtain rfl : d = d' := Option.some.inj (slot.symm.trans slot')
      exact Nat.le_trans (tried.left e told m above) le
    · refine tried.slot rfl m above (fun d found => ?_) d slot
      exact Nat.le_trans (above s.offset (Nat.le_refl _)) (notBehind d found)

open Plan

theorem ifElse_keeps {b : Ty} (p : Parser β a) (yes : a.Value β → Parser β b) (no : Parser β b)
    (sound : s.Sound env) :
    ((ifElse p yes no).plan rules depth env n s).Keeps rules (Outcome.Ahead env s) := by
  refine keeps_perform sound fun r t _ evolves ahead => ?_
  rcases r with (_ | _ | _ | _ | _) | v <;> dsimp only
  case ok => exact keeps_last (sound.evolves evolves) ahead.offset
  case error.fail =>
    split
    case isTrue => exact ahead.error ahead.offset rfl
    case isFalse uncommitted =>
      have clear : ((t.restore s.cursor).setError none).Sound env :=
        sound.evolves evolves.back.clear
      refine keeps_perform clear fun r u _ _ other => ?_
      have offset : s.offset ≤ u.offset := other.offset
      show (Action.ifElse (fun _ _ _ => ⟨.error .fail, t⟩) (fun _ _ _ _ => ⟨r, u⟩)
        (fun _ _ _ => ⟨r, u⟩) env n s).Ahead env s
      simp only [Action.ifElse, Action.run, if_neg uncommitted]
      rcases r with (_ | _ | _ | _ | _) | v
      case error.fail =>
        -- Both the condition and the other part have begun here.
        exact ⟨offset, fun _ m above =>
          State.index_mergeError _ (ahead.slot rfl m above) (other.slot rfl m above)⟩
      all_goals exact .of_ne_fail offset (by rintro ⟨⟩)
  all_goals exact .of_ne_fail ahead.offset (by rintro ⟨⟩)

theorem tryCatch_keeps (p : Parser β a)
    (handler : Option (a.Value β) → Key → Handling β (a.Value β))
    (resume : Option (a.Value β) → Key → Parser β a) (sound : s.Sound env) :
    ((tryCatch p handler resume).plan rules depth env n s).Keeps rules (Outcome.Ahead env s) := by
  refine keeps_perform sound fun r t _ evolves ahead => ?_
  rcases r with (_ | sig | _ | _ | _) | v <;> dsimp only
  case error.signal =>
    cases decided : (handler (sig.collected.bind (Typed.at? a)) sig.key).recovery with
    | resume =>
      have caught (notes : List (Note β)) :
          s.Evolves (fun _ _ _ _ => True) env ((t.note notes).setError s.error) :=
        (evolves.trans (.note notes)).regain fun _ left => left
      exact keeps_last (sound.evolves (caught _)) ahead.offset
    | value v | propagate left =>
      show (Action.tryCatch (fun _ _ _ => ⟨.error (.signal sig), t⟩) handler
        (fun _ _ _ _ _ => ⟨.error (.signal sig), t⟩) env n s).Ahead env s
      simp only [Action.tryCatch, Action.run, decided]
      exact .of_ne_fail ahead.offset (by rintro ⟨⟩)
  case error.fail => exact ahead
  all_goals exact .of_ne_fail ahead.offset (by rintro ⟨⟩)

theorem parseTokens_keeps {lexer : Parser β (.list .lexeme)} (p : Parser β a) (eofTitle : String)
    (render : Token → String) (origin : String)
    (forthright : (parseTokens lexer p eofTitle render origin).Forthright rules depth env n s)
    (sound : s.Sound env) :
    ((parseTokens lexer p eofTitle render origin).plan rules depth env n s).Keeps rules
      (Outcome.Ahead env s) := by
  refine keeps_perform sound fun r t ran evolves ahead => keeps_andThen ahead fun lexemes ok => ?_
  dsimp only
  split
  · exact .faulty ahead.offset
  · rename_i w window
    have input := Env.input_of_window window
    dsimp only at ok
    subst ok
    have tokens : ∀ l ∈ lexemes, s.offset ≤ l.index := by
      intro l member
      have := forthright lexemes t ran l member
      rwa [Env.index_chars input] at this
    have places : ∀ k, s.offset ≤ (Env.ofTokens ⟨w.source, lexemes.toArray, env.index t.offset,
        eofTitle, render⟩ origin env.positions).index k := by
      intro k
      rcases Env.index_ofTokens _ origin env.positions k with index | ⟨l, member, index⟩
      · rw [index, Env.index_chars input]
        exact ahead.offset
      · rw [index]
        exact tokens l member
    refine inside_keeps p ahead.offset (fun k _ => places k) fun m above k _ => ?_
    have begins := above s.offset (Nat.le_refl _)
    rw [Env.index_chars input] at begins
    exact Nat.le_trans begins (places k)

theorem scanChars_keeps {b : Ty} (outer : Parser β b) (p : Parser β a) (origin : String)
    (sound : s.Sound env) :
    ((scanChars outer p origin).plan rules depth env n s).Keeps rules (Outcome.Ahead env s) := by
  refine keeps_perform sound fun r t _ evolves ahead => keeps_andThen ahead fun v _ => ?_
  dsimp only
  split
  · exact .faulty ahead.offset
  · rename_i w window
    have input := Env.input_of_window window
    refine inside_keeps p ahead.offset (fun k later => later) fun m above k later => ?_
    have begins := above s.offset (Nat.le_refl _)
    rw [Env.index_chars input] at begins
    exact Nat.le_trans begins later

theorem plan_ahead (p : Parser β a) (forthright : p.Forthright rules depth env n s)
    (sound : s.Sound env)
    (operands : ∀ y ∈ (p.plan rules depth env n s).operands rules,
      y.2.state.Sound y.2.env → (y.2.outcome rules).Ahead y.2.env y.2.state) :
    (p.eval (rules.calls depth) env n s).Ahead env s := by
  have use (keeps : (p.plan rules depth env n s).Keeps rules (Outcome.Ahead env s)) :
      (p.eval (rules.calls depth) env n s).Ahead env s := by
    have ahead := keeps_run keeps operands
    rwa [p.plan_run] at ahead
  have here := Nat.le_refl s.offset
  cases p with
  | ret | getIndex => exact .ok here
  | reject why => exact .reject sound.truthful here why
  | raise | abort => exact .of_ne_fail here (by rintro ⟨⟩)
  | fault message => exact .faulty here
  | eof l => exact Action.eof_ahead sound l
  | token f => exact Action.token_ahead sound f
  | char k f => exact Action.char_ahead sound k f
  | pattern p l => exact Action.pattern_ahead sound p l
  | matched p => exact use (keeps_perform sound fun _ _ _ _ ahead => Action.matched_ahead ahead rfl)
  | atomize p => exact use (keeps_perform sound fun _ _ _ _ ahead => Action.atomize_ahead ahead rfl)
  | lookahead m p => exact use (keeps_perform sound fun _ _ _ _ ahead => ahead)
  | stepBy m p =>
    exact use (keeps_perform sound fun _ _ _ _ ahead => Action.stepBy_ahead ahead m rfl)
  | peek p => exact use (keeps_perform sound fun _ _ _ _ ahead => Action.peek_ahead ahead rfl)
  | label l p =>
    exact use (keeps_perform sound fun _ _ _ evolves ahead =>
      Action.label_ahead ahead (sound.evolves evolves) l rfl)
  | isConsumed message p =>
    exact use (keeps_perform sound fun _ _ _ evolves ahead =>
      Action.isConsumed_ahead ahead (sound.evolves evolves) message rfl)
  | notConsumed message p =>
    exact use (keeps_perform sound fun _ _ _ evolves ahead =>
      Action.notConsumed_ahead ahead (sound.evolves evolves) message rfl)
  | test check l p =>
    exact use (keeps_perform sound fun _ _ _ evolves ahead =>
      Action.test_ahead ahead (sound.evolves evolves) check l rfl)
  | tryMap f p =>
    exact use (keeps_perform sound fun _ _ _ _ ahead => Action.tryMap_ahead ahead f rfl)
  | lex p reader =>
    exact use (keeps_perform sound fun _ _ _ _ ahead => Action.lex_ahead ahead reader rfl)
  | traced p hook =>
    exact use (keeps_perform sound fun _ _ _ _ ahead => Action.traced_ahead ahead hook rfl)
  | lazy make => exact use (keeps_perform sound fun _ _ _ _ ahead => ahead)
  | named name p =>
    exact use (keeps_perform sound fun _ _ _ _ ahead => Action.named_ahead ahead name rfl)
  | bind p f =>
    refine use (keeps_perform sound fun r t _ evolves ahead => keeps_andThen ahead fun v _ => ?_)
    exact keeps_last (sound.evolves evolves) ahead.offset
  | ifElse p yes no => exact use (ifElse_keeps p yes no sound)
  | tryCatch p handler resume => exact use (tryCatch_keeps p handler resume sound)
  | sum k branches => exact sum_ahead forthright sound operands
  | favored preference k branches =>
    exact use (favoredFrom_keeps preference _ sound rfl .refl (by simp) (by simp))
  | loop p min max finish => exact use (loopFrom_keeps p min max finish _ 0 [] sound)
  | nested opening closing body =>
    refine use (keeps_perform sound fun r t _ evolves ahead => keeps_andThen ahead fun v _ => ?_)
    exact (nestedFrom_keeps opening closing body _ 1 (sound.evolves evolves)).mono
      fun o kept => kept.after ahead.offset
  | parseTokens lexer p eofTitle render origin =>
    exact use (parseTokens_keeps p eofTitle render origin forthright sound)
  | scanChars outer p origin => exact use (scanChars_keeps outer p origin sound)
  | rule name =>
    cases depth with
    | zero => exact .of_ne_fail here (by rintro ⟨⟩)
    | succ depth =>
      refine use ?_
      simp only [plan]
      split
      · exact keeps_last sound here
      · exact .faulty here

end Parser

namespace Application

variable {rules : Rules β} {x : Application β a}

theorem Throughout.ahead (forthright : x.Throughout rules (Forthright rules))
    (sound : x.state.Sound x.env) : (x.outcome rules).Ahead x.env x.state := by
  induction forthright with
  | intro here inside ih => exact Parser.plan_ahead _ here sound ih

/-- Whatever was in the slot, a failure leaves it empty, or with a diagnostic of a place that is not
before the one where the parser began. -/
theorem failure_points_ahead (rules : Rules β) {x : Application β a}
    (forthright : x.Throughout rules (Forthright rules)) (numbered : x.state.Numbered)
    (truthful : x.state.Truthful x.env) (ordered : x.env.Ordered)
    (failed : (x.outcome rules).reply = .error .fail) :
    ∀ d, (x.outcome rules).state.error = some d → x.env.index x.state.offset ≤ d.index :=
  (forthright.ahead ⟨numbered, truthful⟩).slot failed _ fun k later => ordered _ k later

def afterLetter (rest : Parser Nat .unit) : Application Nat .unit :=
  let env := Env.ofText "ab".toList "line" (PositionMap.ofSource "ab".toList)
  let letter : Parser Nat .unit := .plus [Scanner.char 'x', Scanner.char 'a']
  ⟨rest, 0, env, 1, (letter.eval (Rules.calls [] 0) env 1 (env.stateAt .start)).state⟩

theorem afterLetter_sound (rest : Parser Nat .unit) :
    (afterLetter rest).state.Sound (afterLetter rest).env :=
  State.Sound.evolves ⟨State.numbered_stateAt _ .start, State.truthful_of_blank rfl⟩
    (Parser.eval_evolves [] 0 _ _ 1 _)

theorem afterLetter_ordered (rest : Parser Nat .unit) : (afterLetter rest).env.Ordered :=
  fun _ _ le => le

theorem afterLetter_points_ahead :
    let x := afterLetter (.plus [.zero, Scanner.char 'c'])
    x.Throughout [] (Forthright []) ∧ x.state.Numbered ∧ x.state.Truthful x.env ∧
      x.env.Ordered ∧ (x.outcome []).reply = .error .fail ∧
      ∀ d, (x.outcome []).state.error = some d → x.env.index x.state.offset ≤ d.index := by
  intro x
  have told : (Action.leftBy x.env 1 x.state.cursor
      [Action.reject .silent, (Scanner.char 'c').eval (Rules.calls [] 0)] x.state).map
        (Option.map Diagnostic.index) = [none, some 1] := by decide +kernel
  have operands : (x.plan []).operands [] =
      [⟨_, ⟨.zero, 0, x.env, 1, x.state⟩⟩, ⟨_, ⟨Scanner.char 'c', 0, x.env, 1,
        ((x.state.setError none).mergeError x.state.error).restore x.state.cursor⟩⟩] := rfl
  have forthright : x.Throughout [] (Forthright []) := by
    refine .intro (fun t _ _ => .inl ?_) fun y member => ?_
    · have spoken : some 1 ∈ [none, some 1] := by simp
      rw [← told] at spoken
      obtain ⟨e, left, one⟩ := List.mem_map.1 spoken
      obtain ⟨d, rfl, -⟩ := Option.map_eq_some_iff.1 one
      exact ⟨d, left⟩
    · rw [operands] at member
      simp only [List.mem_cons, List.not_mem_nil, or_false] at member
      rcases member with rfl | rfl
      all_goals exact .intro trivial fun z none => by cases none
  have failed : (x.outcome []).reply = .error .fail := by rfl
  have sound := afterLetter_sound (.plus [.zero, Scanner.char 'c'])
  have ordered := afterLetter_ordered (.plus [.zero, Scanner.char 'c'])
  exact ⟨forthright, sound.numbered, sound.truthful, ordered, failed,
    failure_points_ahead [] forthright sound.numbered sound.truthful ordered failed⟩

theorem silence_and_made_up_tokens_point_back :
    let silent := afterLetter (.plus [.zero])
    let madeUp := afterLetter (.parseTokens (.ret [⟨0, 1, .plainWord "x"⟩]) (.failWith "no")
      "EOF" Token.render "words")
    silent.state.Sound silent.env ∧ silent.env.Ordered ∧ (silent.outcome []).reply = .error .fail ∧
      silent.env.index silent.state.offset = 1 ∧
      (silent.outcome []).state.error.map Diagnostic.index = some 0 ∧
    madeUp.state.Sound madeUp.env ∧ madeUp.env.Ordered ∧ (madeUp.outcome []).reply = .error .fail ∧
      madeUp.env.index madeUp.state.offset = 1 ∧
      (madeUp.outcome []).state.error.map Diagnostic.index = some 0 := by
  intro silent madeUp
  have pointsBack : (silent.outcome []).state.error.map Diagnostic.index = some 0 := by
    decide +kernel
  have pointsBack' : (madeUp.outcome []).state.error.map Diagnostic.index = some 0 := by
    decide +kernel
  exact ⟨afterLetter_sound _, afterLetter_ordered _, rfl, rfl, pointsBack, afterLetter_sound _,
    afterLetter_ordered _, rfl, rfl, pointsBack'⟩

end Application

end Descent
