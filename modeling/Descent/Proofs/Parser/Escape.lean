import Descent.Parser.Repetition
import Descent.Proofs.Parser.Plan

set_option autoImplicit false

namespace Descent

variable {β : Type} {a b : Ty}

namespace Failure

def isSignal : Failure β → Bool
  | signal _ => true
  | _ => false

/-- What may become of a failure on its way out. -/
inductive Kept : Failure β → Failure β → Prop
  | signal (key : Key) (collected collected' : Option (Typed β)) :
    Kept (signal ⟨key, collected⟩) (signal ⟨key, collected'⟩)
  | user (e : UserError) : Kept (user e) (user e)
  | fault (e : Exception) (frames : List Frame) :
    Kept (fault e) (fault { e with frames := e.frames ++ frames })
  | exhausted : Kept exhausted exhausted

namespace Kept

variable {f g h : Failure β}

theorem refl (hard : f.isFail = false) : f.Kept f := by
  cases f with
  | fail => cases hard
  | signal s => exact .signal s.key _ _
  | user e => exact .user e
  | fault e => simpa using Kept.fault e []
  | exhausted => exact .exhausted

theorem trans (first : f.Kept g) (second : g.Kept h) : f.Kept h := by
  cases first with
  | signal key c c' => cases second with | signal => exact .signal key _ _
  | user e => cases second with | user => exact .user e
  | fault e frames =>
    cases second with
    | fault _ more => simpa using Kept.fault e (frames ++ more)
  | exhausted => exact second

theorem isFail (kept : f.Kept g) : g.isFail = false := by
  cases kept <;> rfl

theorem isSignal (kept : f.Kept g) : g.isSignal = f.isSignal := by
  cases kept <;> rfl

end Kept

end Failure

namespace Plan

variable {rules : Rules β} {depth : Nat} {env : Env} {f : Failure β}
  {kept : Failure β → Failure β → Prop}

def Ends (kept : Failure β → Failure β → Prop) (f : Failure β) (plan : Plan β a) : Prop :=
  ∃ g t, plan = done ⟨.error g, t⟩ ∧ kept f g

/-- The plan ends with every failure of an operand that is not an ordinary one; if `caught` is true,
signals of the first operand are excepted. -/
def Relays (kept : Failure β → Failure β → Prop) (caught : Bool) : Plan β a → Prop
  | done _ => True
  | perform _ next =>
    (∀ f t, f.isFail = false → (caught = true → f.isSignal = false) →
      (next ⟨.error f, t⟩).Ends kept f) ∧
      ∀ o, (next o).Relays kept false

abbrev Strict (caught : Bool) (plan : Plan β a) : Prop := plan.Relays Failure.Kept caught

section

variable {x : Application β b}

theorem relays_done (o : Outcome β a) : (done o).Relays kept false := trivial

theorem relays_once {use : Action β b → Outcome β a}
    (passes : ∀ f t, f.isFail = false →
      ∃ g u, use (fun _ _ _ => ⟨.error f, t⟩) = ⟨.error g, u⟩ ∧ kept f g) :
    (once x use).Relays kept false := by
  refine ⟨fun f t hard _ => ?_, fun o => relays_done _⟩
  obtain ⟨g, u, used, kept⟩ := passes f t hard
  exact ⟨g, u, congrArg done used, kept⟩

theorem relays_andThen {o : Outcome β b} {f : b.Value β → State β → Plan β a}
    (next : ∀ v t, (f v t).Relays kept false) : (andThen o f).Relays kept false := by
  rcases o with ⟨_ | v, t⟩
  · exact relays_done _
  · exact next v t

theorem relays_orElse {o : Outcome β a} {f : State β → Plan β a}
    (next : ∀ t, (f t).Relays kept false) : (orElse o f).Relays kept false := by
  rcases o with ⟨(_ | _ | _ | _ | _) | v, t⟩
  case error.fail => exact next t
  all_goals exact relays_done _

end

section

variable {x : Application β b} (same : ∀ f : Failure β, f.isFail = false → kept f f)

include same

theorem ends_same (hard : f.isFail = false) (t : State β) :
    Ends kept f (done ⟨.error f, t⟩ : Plan β a) := ⟨f, t, rfl, same f hard⟩

theorem relays_last (x : Application β a) : (perform x done).Relays kept false :=
  ⟨fun _ t hard _ => ends_same same hard t, relays_done⟩

theorem relays_perform_andThen {f : b.Value β → State β → Plan β a}
    (next : ∀ v t, (f v t).Relays kept false) :
    (perform x fun o => andThen o f).Relays kept false :=
  ⟨fun _ t hard _ => ends_same same hard t, fun _ => relays_andThen next⟩

theorem ends_orElse {f : State β → Plan β a} {e : Failure β} (hard : e.isFail = false)
    (t : State β) : (orElse ⟨.error e, t⟩ f).Ends kept e := by
  cases e with
  | fail => cases hard
  | _ => exact ends_same same hard t

theorem sumFrom_relays (n : Nat) (start : Cursor) (ps : List (Parser β a)) (s : State β) :
    (sumFrom depth env n start ps s).Relays kept false := by
  induction ps generalizing s with
  | nil => exact relays_done _
  | cons p ps ih =>
    refine ⟨fun f t hard _ => ends_orElse same hard t, fun o => relays_orElse fun t => ?_⟩
    split
    · exact relays_done _
    · exact ih _

theorem favoredRest_relays (preference : Preference) (start : Cursor) (ps : List (Parser β a))
    (v : a.Value β) (best : Cursor) (s : State β) :
    (favoredRest depth env preference start ps v best s).Relays kept false := by
  induction ps generalizing v best s with
  | nil => exact relays_done _
  | cons p ps ih =>
    refine ⟨fun f t hard _ => ?_, fun o => ?_⟩
    · cases f with
      | fail => cases hard
      | _ => exact ends_same same hard t
    · rcases o with ⟨(_ | _ | _ | _ | _) | w, t⟩
      case error.fail => exact ih v best t
      case ok =>
        dsimp only
        split
        · exact ih w t.cursor t
        · exact ih v best t
      all_goals exact relays_done _

theorem favoredFrom_relays (preference : Preference) (start : Cursor) (ps : List (Parser β a))
    (error : Option Diagnostic) (s : State β) :
    (favoredFrom depth env preference start ps error s).Relays kept false := by
  induction ps generalizing error s with
  | nil => exact relays_done _
  | cons p ps ih =>
    refine ⟨fun f t hard _ => ?_, fun o => ?_⟩
    · cases f with
      | fail => cases hard
      | _ => exact ends_same same hard t
    · rcases o with ⟨(_ | _ | _ | _ | _) | v, t⟩
      case error.fail => exact ih _ _
      case ok => exact favoredRest_relays same preference start ps v t.cursor t
      all_goals exact relays_done _

theorem loopFrom_relays (collects : ∀ sig c, kept (.signal sig) (.signal ⟨sig.key, c⟩))
    (p : Parser β b) (min : Nat) (max : Option Nat) (finish : List (b.Value β) → a.Value β)
    (fuel count : Nat) (values : List (b.Value β)) (s : State β) :
    (loopFrom depth env p min max finish fuel count values s).Relays kept false := by
  induction fuel generalizing count values s with
  | zero => exact relays_done _
  | succ fuel ih =>
    simp only [loopFrom]
    split
    · exact relays_done _
    · refine ⟨fun f t hard _ => ?_, fun o => ?_⟩
      · cases f with
        | fail => cases hard
        -- The values so far are put into the signal, its key stays.
        | signal sig => exact ⟨_, t, rfl, collects sig _⟩
        | _ => exact ends_same same hard t
      · rcases o with ⟨(_ | _ | _ | _ | _) | v, t⟩
        case error.fail =>
          dsimp only
          split <;> exact relays_done _
        case ok =>
          dsimp only
          split
          · exact relays_done _
          · exact ih _ _ t
        all_goals exact relays_done _

theorem nestedFrom_relays (opening closing body : Parser β .unit) (fuel level : Nat)
    (s : State β) :
    (nestedFrom depth env opening closing body fuel level s).Relays kept false := by
  induction fuel generalizing level s with
  | zero => cases level <;> exact relays_done _
  | succ fuel ih =>
    cases level with
    | zero => exact relays_done _
    | succ level =>
      have last (u : State β) : (perform (part depth env body u) fun o => andThen o fun _ v =>
          if v.cursor.movedFrom s.cursor then
            nestedFrom depth env opening closing body fuel (level + 1) v
          else done (Action.faulty
            (env.fault v.offset "commented scanner not consuming input") v)).Relays kept false := by
        refine relays_perform_andThen same fun _ v => ?_
        split
        · exact ih (level + 1) v
        · exact relays_done _
      refine ⟨fun f t hard _ => ?_, fun o => ?_⟩
      · simp only [hard, Bool.false_and, Bool.false_eq_true, if_false]
        exact ends_same same hard t
      · rcases o with ⟨e | v, t⟩ <;> dsimp only
        case ok =>
          split
          · exact ih level t
          · exact relays_done _
        case error =>
          split
          · refine ⟨fun f u hard _ => ?_, fun o => ?_⟩
            · simp only [hard, Bool.false_and, Bool.false_eq_true, if_false]
              exact ends_same same hard u
            · rcases o with ⟨e | v, u⟩ <;> dsimp only
              case ok =>
                split
                · exact ih (level + 2) u
                · exact relays_done _
              case error =>
                split
                · exact last u
                · exact relays_done _
          · exact relays_done _

theorem inside_relays (p : Parser β a) (inner : Env) (first : Nat) (s : State β) :
    (inside depth p inner first s).Relays kept false := by
  refine relays_once fun f t hard => ?_
  cases f with
  | fail => cases hard
  | _ => exact ⟨_, _, rfl, same _ hard⟩

end

end Plan

namespace Parser

open Plan

section

variable {kept : Failure β → Failure β → Prop} (rules : Rules β) (depth : Nat) (env : Env) (n : Nat)
  (s : State β) (same : ∀ f : Failure β, f.isFail = false → kept f f)

include same

theorem label_relays (l : String) (p : Parser β a) :
    ((label l p).plan rules depth env n s).Relays kept false := by
  rw [plan]
  refine relays_once fun f t hard => ?_
  cases f with
  | fail => cases hard
  | _ => exact ⟨_, t, rfl, same _ hard⟩

theorem named_relays (framed : ∀ e frame, kept (.fault e) (.fault (e.addFrame frame)))
    (name : String) (p : Parser β a) :
    ((named name p).plan rules depth env n s).Relays kept false := by
  rw [plan]
  refine relays_once fun f t hard => ?_
  cases f with
  | fail => cases hard
  | fault e => exact ⟨_, t, rfl, framed e _⟩
  | _ => exact ⟨_, t, rfl, same _ hard⟩

theorem ifElse_relays (p : Parser β b) (yes : b.Value β → Parser β a) (no : Parser β a) :
    ((ifElse p yes no).plan rules depth env n s).Relays kept false := by
  refine ⟨fun f t hard _ => ?_, fun o => ?_⟩
  · cases f with
    | fail => cases hard
    | _ => exact ends_same same hard t
  · rcases o with ⟨(_ | _ | _ | _ | _) | v, t⟩ <;> dsimp only
    case ok => exact relays_last same _
    case error.fail =>
      split
      case isTrue => exact relays_done _
      case isFalse uncommitted =>
        -- The other part was reached through an ordinary failure, and what it fails with counts.
        refine relays_once fun f u hard => ?_
        simp only [Action.ifElse, Action.run, if_neg uncommitted]
        cases f with
        | fail => cases hard
        | _ => exact ⟨_, u, rfl, same _ hard⟩
    all_goals exact relays_done _

theorem tryCatch_relays (p : Parser β a)
    (handler : Option (a.Value β) → Key → Handling β (a.Value β))
    (resume : Option (a.Value β) → Key → Parser β a) :
    ((tryCatch p handler resume).plan rules depth env n s).Relays kept true := by
  refine ⟨fun f t hard free => ?_, fun o => ?_⟩
  · cases f with
    | fail => cases hard
    | signal sig => cases free rfl
    | _ => exact ends_same same hard t
  · rcases o with ⟨(_ | sig | _ | _ | _) | v, t⟩ <;> dsimp only
    case error.signal =>
      split
      · exact relays_last same _
      · exact relays_done _
    all_goals exact relays_done _

theorem parseTokens_relays (lexer : Parser β (.list .lexeme)) (p : Parser β a) (eofTitle : String)
    (render : Token → String) (origin : String) :
    ((parseTokens lexer p eofTitle render origin).plan rules depth env n s).Relays kept false := by
  refine relays_perform_andThen same fun lexemes t => ?_
  split
  · exact relays_done _
  · exact inside_relays same p _ 0 t

theorem scanChars_relays (outer : Parser β b) (p : Parser β a) (origin : String) :
    ((scanChars outer p origin).plan rules depth env n s).Relays kept false := by
  refine relays_perform_andThen same fun _ t => ?_
  split
  · exact relays_done _
  · exact inside_relays same p _ s.offset t

theorem rule_relays (name : String) :
    ((rule name).plan rules depth env n s).Relays kept false := by
  cases depth with
  | zero => exact relays_done _
  | succ depth =>
    simp only [plan]
    split
    · exact relays_last same _
    · exact relays_done _

end

end Parser

def Parser.catches : Parser β a → Bool
  | tryCatch _ _ _ => true
  | _ => false

def Parser.collects : Parser β a → Bool
  | loop _ _ _ _ => true
  | _ => false

open Plan in
theorem Parser.plan_relays {kept : Failure β → Failure β → Prop} (rules : Rules β) (depth : Nat)
    (env : Env) (n : Nat) (s : State β) (p : Parser β a)
    (same : ∀ f : Failure β, f.isFail = false → kept f f)
    (framed : ∀ e frame, kept (.fault e) (.fault (e.addFrame frame)))
    (collects : p.collects = true → ∀ sig c, kept (.signal sig) (.signal ⟨sig.key, c⟩)) :
    (p.plan rules depth env n s).Relays kept p.catches := by
  cases p with
  | ret | reject | raise | abort | fault | getIndex | eof | token | char | pattern =>
    exact relays_done _
  | matched | atomize | lookahead | stepBy | peek | isConsumed | notConsumed | test | tryMap | lex
  | traced | lazy =>
    rw [plan]
    refine relays_once fun f t hard => ?_
    exact ⟨f, _, rfl, same _ hard⟩
  | label l p => exact label_relays rules depth env n s same l p
  | named name p => exact named_relays rules depth env n s same framed name p
  | bind p f => exact relays_perform_andThen same fun v t => relays_last same _
  | ifElse p yes no => exact ifElse_relays rules depth env n s same p yes no
  | tryCatch p handler resume => exact tryCatch_relays rules depth env n s same p handler resume
  | sum k ps => exact sumFrom_relays same n s.cursor _ s
  | favored preference k ps => exact favoredFrom_relays same preference s.cursor _ none s
  | loop p min max finish => exact loopFrom_relays same (collects rfl) p min max finish _ 0 [] s
  | nested opening closing body =>
    exact relays_perform_andThen same fun _ t => nestedFrom_relays same opening closing body _ 1 t
  | parseTokens lexer p eofTitle render origin =>
    exact parseTokens_relays rules depth env n s same lexer p eofTitle render origin
  | scanChars outer p origin => exact scanChars_relays rules depth env n s same outer p origin
  | rule name => exact rule_relays rules depth env n s same name

theorem Parser.plan_strict (rules : Rules β) (depth : Nat) (env : Env) (n : Nat) (s : State β)
    (p : Parser β a) : (p.plan rules depth env n s).Strict p.catches :=
  p.plan_relays rules depth env n s (fun _ => .refl) (fun e frame => .fault e [frame])
    fun _ sig _ => .signal sig.key _ _

theorem Plan.ends_at_operand {rules : Rules β} {kept : Failure β → Failure β → Prop}
    {plan : Plan β a} {caught : Bool} (relays : plan.Relays kept caught)
    {before after : List ((b : Ty) × Application β b)} {y : Application β b}
    (performed : plan.operands rules = before ++ ⟨b, y⟩ :: after)
    {f : Failure β} (failed : (y.outcome rules).reply = .error f) (hard : f.isFail = false)
    (free : (caught && before.isEmpty) = true → f.isSignal = false) :
    after = [] ∧ ∃ g, (plan.run rules).reply = .error g ∧ kept f g := by
  induction plan generalizing before caught with
  | done o => simp [operands] at performed
  | perform x next ih =>
    obtain ⟨ends, later⟩ := relays
    cases before with
    | nil =>
      simp only [operands, List.nil_append, List.cons.injEq] at performed
      obtain ⟨same, others⟩ := performed
      cases same
      rcases outcome : y.outcome rules with ⟨r, t⟩
      rw [outcome] at failed others
      subst failed
      obtain ⟨g, u, ended, kept⟩ := ends f t hard (by simpa using free)
      rw [ended] at others
      simp only [run, outcome, ended]
      exact ⟨others.symm, g, rfl, kept⟩
    | cons first before =>
      simp only [operands, List.cons_append, List.cons.injEq] at performed
      exact ih _ (later _) performed.2 (by simp)

/-- The operand `y` is applied inside `x`, and after it `later` more on the way out; `guarded` says
that it is inside an operand whose signals may be caught. -/
inductive Inside (rules : Rules β) (y : Application β b) :
    {a : Ty} → Application β a → (later : Nat) → (guarded : Bool) → Prop
  | operand {a : Ty} {x : Application β a} {before after : List ((b : Ty) × Application β b)}
    (performed : (x.plan rules).operands rules = before ++ ⟨b, y⟩ :: after) :
    Inside rules y x after.length (x.parser.catches && before.isEmpty)
  | deeper {a c : Ty} {x : Application β a} {z : Application β c}
    {before after : List ((b : Ty) × Application β b)} {later : Nat} {guarded : Bool}
    (performed : (x.plan rules).operands rules = before ++ ⟨c, z⟩ :: after)
    (inner : Inside rules y z later guarded) :
    Inside rules y x (later + after.length) (guarded || x.parser.catches && before.isEmpty)

theorem Application.plan_run (rules : Rules β) (x : Application β a) :
    (x.plan rules).run rules = x.outcome rules :=
  x.parser.plan_run rules x.depth x.env x.lookahead x.state

/-- If an operand at any depth fails with anything but an ordinary failure, no operand is applied
after it and the failure is the outcome, unless it is a signal on its way through a handler. -/
theorem Application.hard_failure_escapes (rules : Rules β) {x : Application β a}
    {y : Application β b} {later : Nat} {guarded : Bool} (inside : Inside rules y x later guarded)
    {f : Failure β} (failed : (y.outcome rules).reply = .error f) (hard : f.isFail = false)
    (free : guarded = true → f.isSignal = false) :
    (∀ {c : Ty} (z : Application β c), (z.plan rules).run rules = z.outcome rules) ∧
      later = 0 ∧ ∃ g, (x.outcome rules).reply = .error g ∧ f.Kept g := by
  refine ⟨fun z => z.plan_run rules, ?_⟩
  induction inside with
  | @operand a x before after performed =>
    have strict := x.parser.plan_strict rules x.depth x.env x.lookahead x.state
    obtain ⟨last, g, reply, kept⟩ := Plan.ends_at_operand strict performed failed hard free
    rw [← x.plan_run]
    exact ⟨by rw [last]; rfl, g, reply, kept⟩
  | @deeper a c x z before after later guarded performed inner ih =>
    have freeInside : guarded = true → f.isSignal = false := fun true => free (by simp [true])
    obtain ⟨none, g, reply, kept⟩ := ih freeInside
    have strict := x.parser.plan_strict rules x.depth x.env x.lookahead x.state
    have freeHere : (x.parser.catches && before.isEmpty) = true → g.isSignal = false := fun true =>
      kept.isSignal ▸ free (by simp [true])
    obtain ⟨last, h, reply, further⟩ :=
      Plan.ends_at_operand strict performed reply kept.isFail freeHere
    rw [← x.plan_run]
    exact ⟨by rw [none, last]; rfl, h, reply, kept.trans further⟩

theorem Application.broken_item_ends_list :
    let broken : Parser Nat .base := .fault "broken"
    let item : Parser Nat .base := .named "item" (Parser.longest [.ret 1, broken])
    let items : Parser Nat .nat := Parser.countMany 0 item
    let env := Env.ofText "ab".toList "items" (PositionMap.ofSource [])
    let s : State Nat := env.stateAt ⟨1, 1⟩
    let x : Application Nat .nat := ⟨items, 0, env, 1, s⟩
    let y : Application Nat .base := ⟨broken, 0, env, 1, s⟩
    let e := env.fault 1 "broken"
    Inside [] y x 0 false ∧ (y.outcome []).reply = .error (.fault e) ∧
      ((Failure.fault e : Failure Nat).isFail = false) ∧
      ∃ g, (x.outcome []).reply = .error g ∧ (Failure.fault e).Kept g := by
  intro broken item items env s x y e
  let first : Application Nat .base := ⟨.ret 1, 0, env, 1, s⟩
  let longest : Application Nat .base := ⟨Parser.longest [.ret 1, broken], 0, env, 1, s⟩
  let named : Application Nat .base := ⟨item, 0, env, 1, s⟩
  have ofLongest : (longest.plan []).operands [] = [⟨_, first⟩] ++ ⟨_, y⟩ :: [] := rfl
  have ofNamed : (named.plan []).operands [] = [] ++ ⟨_, longest⟩ :: [] := rfl
  have ofItems : (x.plan []).operands [] = [] ++ ⟨_, named⟩ :: [] := rfl
  have inside : Inside [] y x 0 false := .deeper ofItems (.deeper ofNamed (.operand ofLongest))
  have failed : (y.outcome []).reply = .error (.fault e) := rfl
  obtain ⟨-, -, g, reply, kept⟩ := hard_failure_escapes [] inside failed rfl (fun _ => rfl)
  exact ⟨inside, failed, rfl, g, reply, kept⟩

end Descent
