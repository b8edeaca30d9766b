import Descent.Parser.Scanner
import Descent.Proofs.Parser.Rounds
import Descent.Proofs.Parser.Trace

set_option autoImplicit false

namespace Descent

variable {β : Type} {a : Ty}

def Application.Idle (rules : Rules β) (x : Application β a) : Prop :=
  x.Succeeds rules ∧ ¬ x.Moves rules

section

variable {rules : Rules β} {depth : Nat} {env : Env} {opening closing body : Scanner β}

inductive Tries (rules : Rules β) (depth : Nat) (env : Env) (opening closing body : Scanner β)
    (level : Nat) (s : State β) :
    List (Application β .unit) → Application β .unit → Nat → String → Prop
  | closing : Tries rules depth env opening closing body level s [] (Plan.part depth env closing s)
    (level - 1) "closing comment scanner not consuming input"
  | opening {t : State β}
    (first : (Plan.part depth env closing s).outcome rules = ⟨.error .fail, t⟩)
    (still : t.offset = s.offset) :
    Tries rules depth env opening closing body level s [Plan.part depth env closing s]
      (Plan.part depth env opening t) (level + 1) "opening comment scanner not consuming input"
  | body {t u : State β}
    (first : (Plan.part depth env closing s).outcome rules = ⟨.error .fail, t⟩)
    (still : t.offset = s.offset)
    (second : (Plan.part depth env opening t).outcome rules = ⟨.error .fail, u⟩)
    (stays : u.offset = s.offset) :
    Tries rules depth env opening closing body level s
      [Plan.part depth env closing s, Plan.part depth env opening t]
      (Plan.part depth env body u) level "commented scanner not consuming input"

/-- What happens from `s` on, where comments are open at `level` depths: the parts that are applied,
and the outcome. -/
inductive Nests (rules : Rules β) (depth : Nat) (env : Env) (opening closing body : Scanner β) :
    Nat → State β → List (Application β .unit) → Outcome β .unit → Prop
  | closed (s : State β) : Nests rules depth env opening closing body 0 s [] ⟨.ok (), s⟩
  | round {level next : Nat} {s t : State β} {message : String} {v : Ty.unit.Value β}
    {ys zs : List (Application β .unit)} {y : Application β .unit} {o : Outcome β .unit}
    (tries : Tries rules depth env opening closing body (level + 1) s ys y next message)
    (ran : y.outcome rules = ⟨.ok v, t⟩) (moved : t.offset ≠ s.offset)
    (others : Nests rules depth env opening closing body next t zs o) :
    Nests rules depth env opening closing body (level + 1) s (ys ++ y :: zs) o
  | idle {level next : Nat} {s t : State β} {message : String} {v : Ty.unit.Value β}
    {ys : List (Application β .unit)} {y : Application β .unit}
    (tries : Tries rules depth env opening closing body (level + 1) s ys y next message)
    (ran : y.outcome rules = ⟨.ok v, t⟩) (still : t.offset = s.offset) :
    Nests rules depth env opening closing body (level + 1) s (ys ++ [y])
      ⟨.error (.fault (env.fault t.offset message)), t⟩
  | failed {level next : Nat} {s t : State β} {message : String} {e : Failure β}
    {ys : List (Application β .unit)} {y : Application β .unit}
    (tries : Tries rules depth env opening closing body (level + 1) s ys y next message)
    (ran : y.outcome rules = ⟨.error e, t⟩) :
    Nests rules depth env opening closing body (level + 1) s (ys ++ [y]) ⟨.error e, t⟩

namespace Tries

variable {level next : Nat} {s t : State β} {message : String} {v : Ty.unit.Value β}
  {ys : List (Application β .unit)} {y : Application β .unit}

theorem stands (tries : Tries rules depth env opening closing body level s ys y next message) :
    y.env = env ∧ y.state.offset = s.offset := by
  cases tries with
  | closing => exact ⟨rfl, rfl⟩
  | opening _ still => exact ⟨rfl, still⟩
  | body _ _ _ stays => exact ⟨rfl, stays⟩

theorem advances (tries : Tries rules depth env opening closing body level s ys y next message)
    (ran : y.outcome rules = ⟨.ok v, t⟩) : env.Advances s.offset t.offset := by
  obtain ⟨rfl, here⟩ := tries.stands
  exact here ▸ Application.advances_of_ok ran

end Tries

theorem Failure.in_place {e : Failure β} {s t : State β}
    (stuck : (e.isFail && !t.cursor.movedFrom s.cursor) = true) :
    e = .fail ∧ t.offset = s.offset := by
  rw [Bool.and_eq_true, Bool.not_eq_true', Cursor.movedFrom, bne_eq_false_iff_eq] at stuck
  cases e with
  | fail => exact ⟨rfl, stuck.2⟩
  | _ => cases stuck.1

namespace Plan

theorem nestedFrom_nests (rules : Rules β) (depth : Nat) (opening closing body : Scanner β)
    (level : Nat) {fuel : Nat} {s : State β} (enough : env.stop - s.offset < fuel) :
    ∃ ys, (nestedFrom depth env opening closing body fuel level s).operands rules =
        ys.map (Sigma.mk .unit) ∧
      Nests rules depth env opening closing body level s ys
        ((nestedFrom depth env opening closing body fuel level s).run rules) := by
  induction fuel generalizing level s with
  | zero => omega
  | succ fuel ih =>
    cases level with
    | zero => exact ⟨[], rfl, .closed s⟩
    | succ level =>
      -- Whichever part succeeds, the next round begins after it, if it has moved.
      have goes {next : Nat} {t : State β} {message : String} {v : Ty.unit.Value β}
          {ys : List (Application β .unit)} {y : Application β .unit}
          (tries : Tries rules depth env opening closing body (level + 1) s ys y next message)
          (ran : y.outcome rules = ⟨.ok v, t⟩) :
          let rest :=
            if t.cursor.movedFrom s.cursor then
              nestedFrom depth env opening closing body fuel next t
            else done (Action.faulty (env.fault t.offset message) t)
          ∃ zs, rest.operands rules = zs.map (Sigma.mk .unit) ∧
            Nests rules depth env opening closing body (level + 1) s (ys ++ y :: zs)
              (rest.run rules) := by
        by_cases still : t.offset = s.offset
        · simp only [State.unmoved still]
          exact ⟨[], rfl, .idle tries ran still⟩
        · obtain ⟨le, inside⟩ := tries.advances ran
          have nearer : env.stop - t.offset < fuel := by omega
          obtain ⟨zs, performed, nests⟩ := @ih next t nearer
          have moved : t.cursor.movedFrom s.cursor = true := by
            simpa [Cursor.movedFrom, State.offset] using still
          simp only [moved, if_true]
          exact ⟨zs, performed, .round tries ran still nests⟩
      simp only [nestedFrom, operands, run]
      rcases first : (part depth env closing s).outcome rules with ⟨e | v, t⟩
      case ok =>
        obtain ⟨zs, performed, nests⟩ := goes .closing first
        exact ⟨_ :: zs, by simpa using performed, nests⟩
      case error =>
        by_cases stuck : (e.isFail && !t.cursor.movedFrom s.cursor) = true
        · obtain ⟨rfl, still⟩ := Failure.in_place stuck
          simp only [stuck, if_true, operands, run]
          rcases second : (part depth env opening t).outcome rules with ⟨e | v, u⟩
          case ok =>
            obtain ⟨zs, performed, nests⟩ := goes (.opening first still) second
            exact ⟨_ :: _ :: zs, by simpa using performed, nests⟩
          case error =>
            by_cases stuck : (e.isFail && !u.cursor.movedFrom s.cursor) = true
            · obtain ⟨rfl, stays⟩ := Failure.in_place stuck
              simp only [stuck, if_true, operands, run]
              rcases third : (part depth env body u).outcome rules with ⟨e | v, w⟩
              case ok =>
                obtain ⟨zs, performed, nests⟩ := goes (.body first still second stays) third
                exact ⟨_ :: _ :: _ :: zs, by simpa [andThen] using performed, nests⟩
              case error => exact ⟨[_, _, _], rfl, .failed (.body first still second stays) third⟩
            · simp only [stuck, Bool.false_eq_true, if_false]
              exact ⟨[_, _], rfl, .failed (.opening first still) second⟩
        · simp only [stuck, Bool.false_eq_true, if_false]
          exact ⟨[_], rfl, .failed .closing first⟩

end Plan

def Application.Stops (rules : Rules β) (x : Application β a) : Prop :=
  x.Faults rules ∨ x.Idle rules

namespace Application

variable {x : Application β a} {t : State β}

theorem stops_iff_of_ok {v : a.Value β} (ran : x.outcome rules = ⟨.ok v, t⟩) :
    x.Stops rules ↔ t.offset = x.state.offset := by
  simp [Stops, Faults, Idle, Succeeds, Moves, ran]

theorem stops_iff_of_error {e : Failure β} (ran : x.outcome rules = ⟨.error e, t⟩) :
    x.Stops rules ↔ ∃ e', e = .fault e' := by
  simp [Stops, Faults, Idle, Succeeds, ran]

end Application

namespace Tries

variable {level next : Nat} {s : State β} {message : String} {ys : List (Application β .unit)}
  {y z : Application β .unit}

theorem length_le (tries : Tries rules depth env opening closing body level s ys y next message) :
    ys.length ≤ 2 := by
  cases tries <;> simp

theorem parser_eq (tries : Tries rules depth env opening closing body level s ys y next message) :
    ∀ z ∈ ys ++ [y], z.parser = opening ∨ z.parser = closing ∨ z.parser = body := by
  cases tries <;> simp [Plan.part]

theorem mem_of_stops
    (tries : Tries rules depth env opening closing body level s ys y next message)
    {zs : List (Application β .unit)} (member : z ∈ ys ++ y :: zs) (stops : z.Stops rules) :
    z = y ∨ z ∈ zs := by
  have others : ∀ z ∈ ys, ¬ z.Stops rules := by
    cases tries with
    | closing => simp
    | opening first => simp [Application.stops_iff_of_error first]
    | body first _ second =>
      simp [Application.stops_iff_of_error first, Application.stops_iff_of_error second]
  rcases List.mem_append.1 member with before | after
  · exact absurd stops (others z before)
  · exact List.mem_cons.1 after

theorem exists_stops_iff
    (tries : Tries rules depth env opening closing body level s ys y next message)
    (zs : List (Application β .unit)) :
    (∃ z ∈ ys ++ y :: zs, z.Stops rules) ↔ y.Stops rules ∨ ∃ z ∈ zs, z.Stops rules := by
  constructor
  · rintro ⟨z, member, stops⟩
    rcases tries.mem_of_stops member stops with rfl | after
    · exact .inl stops
    · exact .inr ⟨z, after, stops⟩
  · rintro (stops | ⟨z, after, stops⟩)
    · exact ⟨y, by simp, stops⟩
    · exact ⟨z, by simp [after], stops⟩

end Tries

namespace Nests

variable {level : Nat} {s : State β} {ys : List (Application β .unit)} {o : Outcome β .unit}

theorem faults_iff (nests : Nests rules depth env opening closing body level s ys o) :
    (∃ e, o.reply = .error (.fault e)) ↔ ∃ y ∈ ys, y.Stops rules := by
  induction nests with
  | closed => simp
  | round tries ran moved _ ih =>
    rw [tries.exists_stops_iff, Application.stops_iff_of_ok ran, tries.stands.2, ih]
    simp [moved]
  | idle tries ran still =>
    rw [tries.exists_stops_iff, Application.stops_iff_of_ok ran, tries.stands.2]
    simp [still]
  | failed tries ran =>
    rw [tries.exists_stops_iff, Application.stops_iff_of_error ran]
    simp

theorem last_of_stops (nests : Nests rules depth env opening closing body level s ys o)
    {z : Application β .unit} (member : z ∈ ys) (stops : z.Stops rules) :
    ys.getLast? = some z := by
  induction nests with
  | closed => cases member
  | round tries ran moved _ ih =>
    rcases tries.mem_of_stops member stops with rfl | after
    · rw [Application.stops_iff_of_ok ran, tries.stands.2] at stops
      exact absurd stops moved
    · rw [List.getLast?_append, List.getLast?_cons, ih after]
      rfl
  | idle tries | failed tries =>
    obtain rfl := (tries.mem_of_stops member stops).resolve_right List.not_mem_nil
    exact List.getLast?_concat

theorem length_le (nests : Nests rules depth env opening closing body level s ys o) :
    ys.length ≤ 3 * (env.stop - s.offset + 1) := by
  induction nests with
  | closed => simp
  | round tries ran moved _ ih =>
    obtain ⟨le, inside⟩ := tries.advances ran
    have few := tries.length_le
    rw [List.length_append, List.length_cons]
    omega
  | idle tries | failed tries =>
    have few := tries.length_le
    rw [List.length_append, List.length_singleton]
    omega

theorem exhausted (nests : Nests rules depth env opening closing body level s ys o)
    (exhausted : o.reply = .error .exhausted) :
    ∃ y ∈ ys, (y.outcome rules).reply = .error .exhausted := by
  induction nests with
  | closed => cases exhausted
  | round _ _ _ _ ih =>
    obtain ⟨y, member, exhausted⟩ := ih exhausted
    exact ⟨y, by simp [member], exhausted⟩
  | idle => cases exhausted
  | failed _ ran => exact ⟨_, by simp, ran ▸ exhausted⟩

theorem parser_eq (nests : Nests rules depth env opening closing body level s ys o) :
    ∀ y ∈ ys, y.parser = opening ∨ y.parser = closing ∨ y.parser = body := by
  induction nests with
  | closed => simp
  | @round _ _ _ _ _ _ ys zs y _ tries _ _ _ ih =>
    intro z member
    rw [← List.singleton_append, ← List.append_assoc] at member
    rcases List.mem_append.1 member with here | later
    · exact tries.parser_eq z here
    · exact ih z later
  | idle tries | failed tries => exact tries.parser_eq

end Nests

end

namespace Application

variable {rules : Rules β} {depth n : Nat} {env : Env} {s : State β} {name : String}
  {p : Parser β a}

theorem named_faults_iff :
    Faults rules ⟨.named name p, depth, env, n, s⟩ ↔ Faults rules ⟨p, depth, env, n, s⟩ := by
  simp only [Faults, outcome, Parser.eval, Action.named]
  rcases p.eval (rules.calls depth) env n s with ⟨(_ | _ | _ | e | _) | v, t⟩ <;>
    simp [Action.faulty]

theorem named_exhausted_iff :
    (outcome rules ⟨.named name p, depth, env, n, s⟩).reply = .error .exhausted ↔
      (outcome rules ⟨p, depth, env, n, s⟩).reply = .error .exhausted := by
  simp only [outcome, Parser.eval, Action.named]
  rcases p.eval (rules.calls depth) env n s with ⟨(_ | _ | _ | e | _) | v, t⟩ <;>
    simp [Action.faulty]

end Application

namespace Scanner

/-- The scanner faults exactly if a part faults or, after the outermost comment has been opened, a
part succeeds where it is; no part is applied after that one. -/
theorem nested_rounds_fault_iff (rules : Rules β) (depth : Nat) (env : Env) (n : Nat) (s : State β)
    (opening closing body : Scanner β) :
    let whole : Application β .unit := ⟨nestedCommentBy opening closing body, depth, env, n, s⟩
    let rounds : Application β .unit := ⟨.nested opening closing body, depth, env, n, s⟩
    let first := Plan.part depth env opening s
    (whole.plan rules).operands rules = [⟨.unit, rounds⟩] ∧
      ∃ later : List (Application β .unit),
        (rounds.plan rules).operands rules = (first :: later).map (Sigma.mk .unit) ∧
        (∀ y ∈ later, y.parser = opening ∨ y.parser = closing ∨ y.parser = body) ∧
        (whole.Faults rules ↔ first.Faults rules ∨ ∃ y ∈ later, y.Faults rules ∨ y.Idle rules) ∧
        (∀ y ∈ later, y.Faults rules ∨ y.Idle rules → later.getLast? = some y) ∧
        later.length ≤ 3 * (env.stop - s.offset + 1) ∧
        ((whole.outcome rules).reply = .error .exhausted →
          ∃ y ∈ first :: later, (y.outcome rules).reply = .error .exhausted) := by
  intro whole rounds first
  refine ⟨rfl, ?_⟩
  have faults : whole.Faults rules ↔ rounds.Faults rules := Application.named_faults_iff
  have exhausted : (whole.outcome rules).reply = .error .exhausted ↔
      (rounds.outcome rules).reply = .error .exhausted := Application.named_exhausted_iff
  rw [faults, exhausted, Application.Faults, ← rounds.plan_run]
  have plan : rounds.plan rules = .perform first fun o => Plan.andThen o fun _ t =>
    Plan.nestedFrom depth env opening closing body (env.stop - t.offset + 2) 1 t := rfl
  rw [plan, Plan.operands, Plan.run]
  rcases ran : first.outcome rules with ⟨e | v, t⟩
  · refine ⟨[], rfl, by simp, ?_, by simp, Nat.zero_le _, fun exhausted => ⟨first, by simp, ?_⟩⟩
    · simp [Plan.andThen, Plan.run, Application.Faults, ran]
    · rw [ran]
      exact exhausted
  · obtain ⟨le, inside⟩ : env.Advances s.offset t.offset := Application.advances_of_ok ran
    have enough : env.stop - t.offset < env.stop - t.offset + 2 := by omega
    obtain ⟨ys, performed, nests⟩ := Plan.nestedFrom_nests rules depth opening closing body 1 enough
    have quiet : ¬ first.Faults rules := by simp [Application.Faults, ran]
    refine ⟨ys, congrArg _ performed, nests.parser_eq, ?_, fun _ => nests.last_of_stops, ?_,
      fun exhausted => ?_⟩
    · rw [or_iff_right quiet]
      exact nests.faults_iff
    · have few := nests.length_le
      omega
    · obtain ⟨y, member, exhausted⟩ := nests.exhausted exhausted
      exact ⟨y, List.mem_cons_of_mem first member, exhausted⟩

theorem empty_opening_goes_unnoticed :
    let opening : Scanner Nat := .ret ()
    let env := Env.ofText [')'] "text" (PositionMap.ofSource [])
    let s : State Nat := env.stateAt .start
    let whole : Application Nat .unit :=
      ⟨nestedCommentBy opening (char ')') anyChar, 0, env, 1, s⟩
    let rounds : Application Nat .unit := ⟨.nested opening (char ')') anyChar, 0, env, 1, s⟩
    let first := Plan.part 0 env opening s
    (whole.plan []).operands [] = [⟨.unit, rounds⟩] ∧
      (rounds.plan []).operands [] =
        [⟨.unit, first⟩, ⟨.unit, Plan.part 0 env (char ')') s⟩] ∧
      first.Idle [] ∧ (whole.outcome []).reply = .ok () := by
  intro opening env s whole rounds first
  exact ⟨rfl, rfl, ⟨⟨(), s, rfl⟩, fun moved => moved rfl⟩, rfl⟩

end Scanner

end Descent
