import Descent.Proofs.Parser.Rounds

set_option autoImplicit false

namespace Descent

variable {β : Type} {a b : Ty}

namespace Typed

theorem at?_eq_some_iff {t : Typed β} {v : a.Value β} : t.at? a = some v ↔ t = ⟨a, v⟩ := by
  obtain ⟨b, w⟩ := t
  by_cases same : b = a
  · subst same
    simp
  · simp [at?, same]

/-- What a handler is offered of what a signal has collected. -/
def offered (a : Ty) (collected : Option (Typed β)) : Option (a.Value β) :=
  collected.bind (at? a)

theorem offered_eq_some_iff {collected : Option (Typed β)} {v : a.Value β} :
    offered a collected = some v ↔ collected = some ⟨a, v⟩ := by
  simp [offered, Option.bind_eq_some_iff, at?_eq_some_iff]

theorem offered_put_back (a : Ty) (collected : Option (Typed β)) :
    ((offered a collected).map (mk a)).or
      (if (offered a collected).isSome then none else collected) = collected := by
  cases taken : offered a collected with
  | none => simp
  | some v => simp [offered_eq_some_iff.1 taken]

end Typed

theorem Parser.catches_iff {q : Parser β a} :
    q.catches = true ↔ ∃ p handler resume, q = .tryCatch p handler resume := by
  cases q <;> simp [catches]

def Parser.LeavesUntouched (key : Key) (collected : Option (Typed β)) : Parser β a → Prop
  | .tryCatch _ handler _ =>
    (handler (Typed.offered a collected) key).recovery =
      .propagate (Typed.offered a collected)
  | _ => True

/-- A raise of the key on its way out. `collected` is what the outermost repetition had collected
that it has left so far. -/
inductive Unwinding (rules : Rules β) (key : Key) :
    {a : Ty} → Application β a → (collected : Option (Typed β)) → Prop
  | raised {a : Ty} {x : Application β a} (raises : x.parser = .raise key) :
    Unwinding rules key x none
  | looped {a b : Ty} {x : Application β b} {p : Parser β a} {min : Nat} {max : Option Nat}
    {finish : List (a.Value β) → b.Value β} {ys : List (Application β a)}
    {vs : List (a.Value β)} {u : State β} {collected : Option (Typed β)}
    (loop : x.parser = .loop p min max finish)
    (rounds : Rounds rules x.depth x.env p x.state ys vs u)
    (performed : (x.plan rules).operands rules =
      (ys ++ [Plan.part x.depth x.env p u]).map (Sigma.mk a))
    (inner : Unwinding rules key (Plan.part x.depth x.env p u) collected) :
    Unwinding rules key x (some ⟨b, finish vs⟩)
  | passed {a b : Ty} {x : Application β a} {y : Application β b}
    {before after : List ((b : Ty) × Application β b)} {collected : Option (Typed β)}
    (other : x.parser.collects = false)
    (performed : (x.plan rules).operands rules = before ++ ⟨b, y⟩ :: after)
    (inner : Unwinding rules key y collected)
    (guarded : before = [] → x.parser.LeavesUntouched key collected) :
    Unwinding rules key x collected

namespace Application

variable {rules : Rules β} {x : Application β a} {p : Parser β a}
  {handler : Option (a.Value β) → Key → Handling β (a.Value β)}
  {resume : Option (a.Value β) → Key → Parser β a} {key : Key} {collected : Option (Typed β)}

theorem tryCatch_outcome (catches : x.parser = .tryCatch p handler resume) {t : State β}
    (raised : (Plan.part x.depth x.env p x.state).outcome rules =
      ⟨.error (.signal ⟨key, collected⟩), t⟩) :
    let offered := Typed.offered a collected
    let after := t.note (handler offered key).notes
    x.outcome rules =
      match (handler offered key).recovery with
      | .value v => ⟨.ok v, after.setError x.state.error⟩
      | .resume => (Plan.part x.depth x.env (resume offered key)
          (after.setError x.state.error)).outcome rules
      | .propagate left => ⟨.error (.signal ⟨key, (left.map (Typed.mk a)).or
          (if offered.isSome then none else collected)⟩), after⟩ := by
  obtain ⟨parser, depth, env, n, s⟩ := x
  obtain rfl : parser = .tryCatch p handler resume := catches
  have inner : (p.eval (rules.calls depth)).run env s = _ := raised
  simp only [Application.outcome, Parser.eval, Action.tryCatch, inner]
  rfl

theorem tryCatch_reply (catches : x.parser = .tryCatch p handler resume)
    (untouched : x.parser.LeavesUntouched key collected)
    (raised : ((Plan.part x.depth x.env p x.state).outcome rules).reply =
      .error (.signal ⟨key, collected⟩)) :
    (x.outcome rules).reply = .error (.signal ⟨key, collected⟩) := by
  rcases outcome : (Plan.part x.depth x.env p x.state).outcome rules with ⟨r, t⟩
  rw [outcome] at raised
  obtain rfl : r = .error (.signal ⟨key, collected⟩) := raised
  rw [catches] at untouched
  have left : (handler (Typed.offered a collected) key).recovery =
      .propagate (Typed.offered a collected) := untouched
  rw [tryCatch_outcome catches outcome, left]
  simp only [Typed.offered_put_back]

theorem tryCatch_reply_eq (catches : x.parser = .tryCatch p handler resume)
    (untouched : ∀ sig,
      ((Plan.part x.depth x.env p x.state).outcome rules).reply = .error (.signal sig) →
      x.parser.LeavesUntouched sig.key sig.collected) :
    (x.outcome rules).reply = ((Plan.part x.depth x.env p x.state).outcome rules).reply := by
  rcases outcome : (Plan.part x.depth x.env p x.state).outcome rules with
    ⟨(_ | sig | _ | _ | _) | v, t⟩
  case error.signal =>
    rw [outcome] at untouched
    exact tryCatch_reply catches (untouched sig rfl) (congrArg Outcome.reply outcome)
  all_goals
    obtain ⟨parser, depth, env, n, s⟩ := x
    obtain rfl : parser = .tryCatch p handler resume := catches
    have inner : (p.eval (rules.calls depth)).run env s = _ := outcome
    simp only [Application.outcome, Parser.eval, Action.tryCatch, inner]

end Application

namespace Unwinding

variable {rules : Rules β} {key : Key} {collected : Option (Typed β)}

theorem reply_eq {x : Application β a} (unwinding : Unwinding rules key x collected) :
    (x.outcome rules).reply = .error (.signal ⟨key, collected⟩) := by
  induction unwinding with
  | @raised _ x raises =>
    obtain ⟨parser, depth, env, n, s⟩ := x
    obtain rfl : parser = .raise key := raises
    rfl
  | @looped a b x p min max finish ys vs u collected loop rounds performed inner ih =>
    obtain ⟨ys', vs', u', last, course⟩ := Application.course rules loop
    have apart : Function.Injective (Sigma.mk (β := Application β) a) := by
      intro y z same
      cases same
      rfl
    have same : ys' ++ last = ys ++ Plan.part x.depth x.env p u :: [] :=
      List.map_injective_iff.2 apart (course.performed.symm.trans performed)
    have failed : ¬ (Plan.part x.depth x.env p u).Succeeds rules := by
      intro succeeds
      obtain ⟨v, t, ok⟩ := succeeds
      rw [ok] at ih
      cases ih
    obtain ⟨rfl, here, rfl⟩ := course.eq_of_not_succeeds same failed
    obtain rfl : u = u' := congrArg Application.state here
    obtain rfl := rounds.values_eq course.rounds
    have closes := course.closes
    rw [x.plan_run] at closes
    generalize x.outcome rules = o at closes ⊢
    rcases outcome : (Plan.part x.depth x.env p u).outcome rules with ⟨r, t⟩
    rw [outcome] at ih
    obtain rfl : r = .error (.signal ⟨key, collected⟩) := ih
    cases closes with
    | last _ final =>
      rw [outcome] at final
      cases final with
      | unwound => rfl
      | ended _ silent => cases silent
  | @passed a b x y before after collected other performed inner guarded ih =>
    by_cases caught : (x.parser.catches && before.isEmpty) = true
    · rw [Bool.and_eq_true, List.isEmpty_iff] at caught
      obtain ⟨catches, rfl⟩ := caught
      obtain ⟨p, handler, resume, parser⟩ := Parser.catches_iff.1 catches
      have here := performed
      rw [Application.plan, parser] at here
      obtain ⟨rfl, same⟩ := Sigma.mk.inj (List.cons.inj here).1
      cases same
      exact Application.tryCatch_reply parser (guarded rfl) ih
    · have relays : (x.plan rules).Relays (fun f g => ∀ sig, f = .signal sig → g = .signal sig)
          x.parser.catches :=
        x.parser.plan_relays rules x.depth x.env x.lookahead x.state (fun _ _ _ signal => signal)
          (by simp) (by simp [other])
      obtain ⟨-, g, reply, kept⟩ := Plan.ends_at_operand relays performed ih rfl (by simp [caught])
      rw [← x.plan_run, reply, kept _ rfl]

end Unwinding

/-- A handler is offered what the outermost repetition below it has collected, at its own type, and
nothing else; what it does not take goes on with the signal. -/
theorem Application.handler_offered_outermost (rules : Rules β) {x : Application β a}
    {p : Parser β a} {handler : Option (a.Value β) → Key → Handling β (a.Value β)}
    {resume : Option (a.Value β) → Key → Parser β a}
    (catches : x.parser = .tryCatch p handler resume) {key : Key} {collected : Option (Typed β)}
    (unwinding : Unwinding rules key (Plan.part x.depth x.env p x.state) collected) :
    let offered := Typed.offered a collected
    (∀ v, offered = some v ↔ collected = some ⟨a, v⟩) ∧
      (∃ t, (Plan.part x.depth x.env p x.state).outcome rules =
          ⟨.error (.signal ⟨key, collected⟩), t⟩ ∧
        let after := t.note (handler offered key).notes
        x.outcome rules =
          match (handler offered key).recovery with
          | .value v => ⟨.ok v, after.setError x.state.error⟩
          | .resume => (Plan.part x.depth x.env (resume offered key)
              (after.setError x.state.error)).outcome rules
          | .propagate left => ⟨.error (.signal ⟨key, (left.map (Typed.mk a)).or
              (if offered.isSome then none else collected)⟩), after⟩) ∧
      (x.parser.LeavesUntouched key collected →
        (x.outcome rules).reply = .error (.signal ⟨key, collected⟩)) ∧
      ∀ {c : Ty} {q : Parser β c} {handler resume} {y : Application β c},
        y.parser = .tryCatch q handler resume →
        (∀ sig, ((Plan.part y.depth y.env q y.state).outcome rules).reply = .error (.signal sig) →
          y.parser.LeavesUntouched sig.key sig.collected) →
        (y.outcome rules).reply = ((Plan.part y.depth y.env q y.state).outcome rules).reply := by
  intro offered
  have reply := unwinding.reply_eq
  refine ⟨fun v => Typed.offered_eq_some_iff, ?_, ?_, fun catches untouched => ?_⟩
  · rcases outcome : (Plan.part x.depth x.env p x.state).outcome rules with ⟨r, t⟩
    rw [outcome] at reply
    obtain rfl : r = .error (.signal ⟨key, collected⟩) := reply
    exact ⟨t, rfl, tryCatch_outcome catches outcome⟩
  · intro untouched
    exact tryCatch_reply catches untouched reply
  · exact tryCatch_reply_eq catches untouched

theorem Application.letters_offered :
    let stop : Key := ⟨.given 0, .unit⟩
    let letter : Parser Nat .unit := .pattern (.char 'a') "a"
    let letters : Parser Nat (.list .unit) := Parser.many (Parser.orElse letter (.raise stop))
    let counted : Parser Nat .nat :=
      .tryCatch (Parser.map (b := .nat) List.length letters) (fun left _ => ⟨.propagate left, []⟩)
        fun _ _ => Parser.zero
    let listed : Parser Nat (.list .unit) :=
      Parser.map (b := .list .unit) (fun n => List.replicate n ()) counted
    let handler (left : Option (List Unit)) (_ : Key) : Handling Nat (List Unit) :=
      ⟨.value (left.getD []), []⟩
    let env := Env.ofText "a1".toList "text" (PositionMap.ofSource [])
    let x : Application Nat (.list .unit) :=
      ⟨.tryCatch listed handler fun _ _ => Parser.zero, 0, env, 1, env.stateAt .start⟩
    Unwinding [] stop (Plan.part 0 env listed x.state) (some ⟨.list .unit, [()]⟩) ∧
      (x.outcome []).reply = .ok [()] := by
  intro stop letter letters counted listed handler env x
  let s : State Nat := x.state
  let item : Parser Nat .unit := Parser.orElse letter (.raise stop)
  let t : State Nat := ((Plan.part 0 env item s).outcome []).state
  have second : Unwinding [] stop (Plan.part 0 env item t) none := by
    let u : State Nat := ((Plan.part 0 env letter t).outcome []).state
    let restored := (u.mergeError t.error).restore t.cursor
    have performed : ((Plan.part 0 env item t).plan []).operands [] =
        [⟨_, Plan.part 0 env letter t⟩] ++ ⟨_, Plan.part 0 env (.raise stop) restored⟩ :: [] :=
      rfl
    exact .passed rfl performed (.raised rfl) (by simp)
  let left : Option (Typed Nat) := some ⟨.list .unit, [()]⟩
  have ofLetters : Unwinding [] stop (Plan.part 0 env letters s) left := by
    have loop : (Plan.part 0 env letters s).parser = .loop item 0 none fun vs => vs := rfl
    have rounds : Rounds [] 0 env item s [Plan.part 0 env item s] [()] t := .next rfl (.none t)
    have performed : ((Plan.part 0 env letters s).plan []).operands [] =
        ([Plan.part 0 env item s] ++ [Plan.part 0 env item t]).map (Sigma.mk .unit) := rfl
    have unwinding := Unwinding.looped loop rounds performed second
    exact unwinding
  have passes {a b : Ty} {p : Parser Nat a} {q : Parser Nat b} (other : p.collects = false)
      (performed : ((Plan.part 0 env p s).plan []).operands [] = [] ++ [⟨b, Plan.part 0 env q s⟩])
      (inner : Unwinding [] stop (Plan.part 0 env q s) left)
      (untouched : p.LeavesUntouched stop left) : Unwinding [] stop (Plan.part 0 env p s) left :=
    .passed other performed inner fun _ => untouched
  have ofLength : Unwinding [] stop
      (Plan.part 0 env (Parser.map (b := .nat) List.length letters) s) left :=
    passes rfl rfl ofLetters trivial
  have ofCounted : Unwinding [] stop (Plan.part 0 env counted s) left :=
    passes rfl rfl ofLength rfl
  have unwinding : Unwinding [] stop (Plan.part 0 env listed s) left :=
    passes rfl rfl ofCounted trivial
  obtain ⟨-, ⟨u, -, caught⟩, -⟩ := handler_offered_outermost [] (x := x) rfl unwinding
  exact ⟨unwinding, congrArg Outcome.reply caught⟩

end Descent
