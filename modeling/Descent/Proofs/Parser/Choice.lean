import Descent.Proofs.Parser.Agreement
import Descent.Proofs.Parser.Combinators

set_option autoImplicit false

namespace Descent

variable {β : Type} {a : Ty}

theorem Cursor.Parallel.eq {c d d' : Cursor} (move : Parallel c d c d') : d = d' := by
  obtain ⟨k, j⟩ := d
  obtain ⟨k', j'⟩ := d'
  obtain ⟨offset, grows, grows', gain⟩ := move
  dsimp only at offset grows grows' gain
  obtain rfl : j = j' := by omega
  rw [offset]

theorem Action.Steady.run_at {x : Action β a} (steady : x.Steady) {env : Env} {s t u : State β}
    {r : Reply β a} (here : t.cursor = s.cursor) (alone : x.run env s = ⟨r, u⟩) :
    ∃ u', x.run env t = ⟨r, u'⟩ ∧ u'.cursor = u.cursor := by
  have same : t.offset = s.offset := congrArg Cursor.offset here
  obtain ⟨reply, move⟩ := steady env defaultLookahead t s same
  change (x.run env t).reply = (x.run env s).reply at reply
  change t.cursor.Parallel (x.run env t).state.cursor s.cursor (x.run env s).state.cursor at move
  rw [alone] at reply move
  rw [here] at move
  exact ⟨_, congrArg (Outcome.mk · _) reply, move.eq⟩

namespace Outcome

def fails (o : Outcome β a) : Bool :=
  match o.reply with
  | .ok _ => false
  | .error e => e.isFail

def raises (o : Outcome β a) : Bool :=
  match o.reply with
  | .ok _ => false
  | .error e => !e.isFail

/-- The outcome with this value and cursor is ahead of the successes listed before it, and none of
those listed after it is ahead of it. -/
def Wins (ahead : Nat → Nat → Prop) (os : List (Outcome β a)) (v : a.Value β) (c : Cursor) : Prop :=
  ∃ before t after, os = before ++ ⟨.ok v, t⟩ :: after ∧ t.cursor = c ∧
    (∀ w u, ⟨.ok w, u⟩ ∈ before → ahead c.offset u.offset) ∧
    ∀ w u, ⟨.ok w, u⟩ ∈ after → ¬ ahead u.offset c.offset

/-- What comes of branches that do `os` alone, if all of them are run: the first that is raised, or
else the success that wins, or else a failure in place. -/
def Selects (ahead : Nat → Nat → Prop) (start : Cursor) (os : List (Outcome β a))
    (o : Outcome β a) : Prop :=
  match os.find? raises with
  | some hard => o.reply = hard.reply
  | none =>
    ((∃ v, o.reply = .ok v) ↔ ∃ x ∈ os, ∃ v, x.reply = .ok v) ∧
      (∀ v, o.reply = .ok v → Wins ahead os v o.state.cursor) ∧
      ((∀ v, o.reply ≠ .ok v) → o.reply = .error .fail ∧ o.state.cursor = start)

end Outcome

def Preference.Ahead : Preference → Nat → Nat → Prop
  | longest, m, n => n < m
  | shortest, m, n => m < n

theorem Preference.prefers_iff {p : Preference} {m n : Nat} :
    p.prefers m n = true ↔ p.Ahead m n := by
  cases p <;> simp [prefers, Ahead]

namespace Outcome.Wins

variable {ahead : Nat → Nat → Prop} {p : Preference} {os : List (Outcome β a)} {o : Outcome β a}
  {v w : a.Value β} {c : Cursor} {t : State β}

theorem exists_value (wins : Wins ahead os v c) : ∃ x ∈ os, ∃ v, x.reply = .ok v := by
  obtain ⟨before, t, after, rfl, -⟩ := wins
  exact ⟨⟨.ok v, t⟩, by simp, v, rfl⟩

theorem first (fail : ∀ x ∈ os, x.fails = true) : Wins ahead (os ++ [⟨.ok v, t⟩]) v t.cursor := by
  refine ⟨os, t, [], rfl, rfl, fun w u member => ?_, by simp⟩
  cases fail _ member

theorem stays (wins : Wins ahead os v c)
    (behind : ∀ w u, o = ⟨.ok w, u⟩ → ¬ ahead u.offset c.offset) :
    Wins ahead (os ++ [o]) v c := by
  obtain ⟨before, t, after, rfl, here, first, others⟩ := wins
  refine ⟨before, t, after ++ [o], by simp, here, first, fun w u member => ?_⟩
  rcases List.mem_append.1 member with member | last
  next => exact others w u member
  next => exact behind w u (List.mem_singleton.1 last).symm

theorem beaten (wins : Wins p.Ahead os v c) (further : p.Ahead t.offset c.offset) :
    Wins p.Ahead (os ++ [⟨.ok w, t⟩]) w t.cursor := by
  obtain ⟨before, u, after, rfl, rfl, first, others⟩ := wins
  refine ⟨before ++ ⟨.ok v, u⟩ :: after, t, [], rfl, rfl, fun w' u' member => ?_, by simp⟩
  change p.Ahead t.offset u'.offset
  rw [List.mem_append, List.mem_cons] at member
  -- What is ahead of the winner is ahead of all that the winner has beaten.
  rcases member with earlier | same | later
  case inl =>
    have beaten := first w' u' earlier
    cases p <;> simp only [Preference.Ahead, State.offset] at * <;> omega
  case inr.inl =>
    cases same
    exact further
  case inr.inr =>
    have beaten := others w' u' later
    cases p <;> simp only [Preference.Ahead, State.offset] at * <;> omega

end Outcome.Wins

namespace Action

open State (restore_cursor)

variable {env : Env} {n : Nat} {s t : State β}

theorem favoredRest_selects (p : Preference) (env : Env) {xs : List (Action β a)}
    (steady : ∀ x ∈ xs, x.Steady) {seen : List (Outcome β a)} {v : a.Value β} {best : Cursor}
    (wins : Outcome.Wins p.Ahead seen v best) :
    let o := favoredRest p env s.cursor xs v best t
    let others := xs.map fun x => x.run env s
    match others.find? Outcome.raises with
    | some hard => o.reply = hard.reply
    | none => ∃ w, o.reply = .ok w ∧ Outcome.Wins p.Ahead (seen ++ others) w o.state.cursor := by
  -- The running best wins among all that have been seen.
  induction xs generalizing seen v best t with
  | nil =>
    refine ⟨v, rfl, ?_⟩
    rw [List.map_nil, List.append_nil]
    exact wins
  | cons x xs ih =>
    rw [List.forall_mem_cons] at steady
    rcases alone : x.run env s with ⟨r, u⟩
    obtain ⟨u', ran, cursor⟩ := steady.1.run_at (restore_cursor t s.cursor) alone
    have offset : u'.offset = u.offset := congrArg Cursor.offset cursor
    rcases r with (_ | _ | _ | _ | _) | w
    case error.fail =>
      have others := ih steady.2 (t := u') (wins.stays (o := ⟨.error .fail, u⟩) nofun)
      simpa [favoredRest, ran, alone, Outcome.raises, Failure.isFail] using others
    case ok =>
      by_cases ahead : p.Ahead u.offset best.offset
      next =>
        have others := ih steady.2 (t := u') (wins.beaten (w := w) ahead)
        simpa [favoredRest, ran, alone, Outcome.raises, offset, cursor,
          Preference.prefers_iff.2 ahead] using others
      next =>
        have stays := wins.stays (o := ⟨.ok w, u⟩) (by rintro _ _ ⟨⟩; exact ahead)
        have others := ih steady.2 (t := u') stays
        simpa [favoredRest, ran, alone, Outcome.raises, offset, Preference.prefers_iff, ahead]
          using others
    all_goals simp [favoredRest, ran, alone, Outcome.raises, Failure.isFail]

theorem favoredFrom_selects (p : Preference) (env : Env) {xs : List (Action β a)}
    (steady : ∀ x ∈ xs, x.Steady) {seen : List (Outcome β a)} {e : Option Diagnostic}
    (failed : ∀ o ∈ seen, o.fails = true) (here : t.cursor = s.cursor) :
    let o := favoredFrom p env s.cursor xs e t
    let others := xs.map fun x => x.run env s
    match others.find? Outcome.raises with
    | some hard => o.reply = hard.reply
    | none =>
      (∃ w, o.reply = .ok w ∧ Outcome.Wins p.Ahead (seen ++ others) w o.state.cursor) ∨
        (∀ o ∈ others, o.fails = true) ∧ o.reply = .error .fail ∧ o.state.cursor = s.cursor := by
  induction xs generalizing seen e t with
  | nil => exact .inr ⟨by simp, rfl, here⟩
  | cons x xs ih =>
    rw [List.forall_mem_cons] at steady
    rcases alone : x.run env s with ⟨r, u⟩
    obtain ⟨u', ran, cursor⟩ := steady.1.run_at here alone
    rcases r with (_ | _ | _ | _ | _) | w
    case error.fail =>
      let merged := u'.mergeError e
      have failed' : ∀ o ∈ seen ++ [⟨.error .fail, u⟩], o.fails = true := by
        rw [List.forall_mem_append]
        exact ⟨failed, by simp [Outcome.fails, Failure.isFail]⟩
      have others := ih steady.2 (e := merged.error)
        (t := (merged.setError none).restore s.cursor) failed' rfl
      simpa [favoredFrom, ran, alone, Outcome.raises, Outcome.fails, Failure.isFail] using others
    case ok =>
      have others := favoredRest_selects p env steady.2 (s := s) (t := u')
        (Outcome.Wins.first (v := w) (t := u) failed)
      cases found : (xs.map fun x => x.run env s).find? Outcome.raises with
      | some hard => simpa [favoredFrom, ran, cursor, alone, Outcome.raises, found] using others
      | none =>
        simp only [found, List.append_assoc, List.singleton_append] at others
        simpa [favoredFrom, ran, cursor, alone, Outcome.raises, found, Outcome.fails] using others
    all_goals simp [favoredFrom, ran, alone, Outcome.raises, Failure.isFail]

theorem favored_selects (p : Preference) {xs : List (Action β a)} (steady : ∀ x ∈ xs, x.Steady)
    (env : Env) (n : Nat) (s : State β) :
    Outcome.Selects p.Ahead s.cursor (xs.map fun x => x.run env s) (favored p xs env n s) := by
  have selects := favoredFrom_selects p env steady (s := s) (t := s) (e := none)
    (List.forall_mem_nil _) rfl
  unfold Outcome.Selects
  cases found : (xs.map fun x => x.run env s).find? Outcome.raises with
  | some hard =>
    simp only [found] at selects ⊢
    exact selects
  | none =>
    simp only [found, List.nil_append] at selects
    rcases selects with ⟨w, reply, wins⟩ | ⟨fail, reply, back⟩
    case inl =>
      change (favored p xs env n s).reply = .ok w at reply
      refine ⟨⟨fun _ => wins.exists_value, fun _ => ⟨w, reply⟩⟩, fun v same => ?_, fun none => ?_⟩
      next =>
        rw [reply] at same
        cases same
        exact wins
      next => exact absurd reply (none w)
    case inr =>
      change (favored p xs env n s).reply = .error .fail at reply
      refine ⟨⟨?_, ?_⟩, ?_, fun _ => ⟨reply, back⟩⟩
      next =>
        rintro ⟨v, same⟩
        cases reply.symm.trans same
      next =>
        rintro ⟨o, member, v, same⟩
        have failed := fail o member
        simp [Outcome.fails, same] at failed
      next =>
        intro v same
        cases reply.symm.trans same

end Action

namespace Parser

theorem evals_steady (rules : Rules β) (depth : Nat) (ps : List (Parser β a)) :
    ∀ x ∈ ps.map (eval (rules.calls depth)), x.Steady := by
  intro x member
  obtain ⟨p, -, rfl⟩ := List.mem_map.1 member
  exact p.eval_steady (rules.calls_steady depth)

/-- What the first success does that no other one gets further than, or falls short of, is kept. -/
theorem longest_and_shortest_select (rules : Rules β) (depth : Nat) (ps : List (Parser β a))
    (env : Env) (n : Nat) (s : State β) :
    let calls := rules.calls depth
    let alone := ps.map fun p => (p.eval calls).run env s
    Outcome.Selects (fun m n => n < m) s.cursor alone ((longest ps).eval calls env n s) ∧
      Outcome.Selects (fun m n => m < n) s.cursor alone ((shortest ps).eval calls env n s) := by
  intro calls alone
  have outcomes : (ps.map (eval calls)).map (fun x => x.run env s) = alone := List.map_map
  rw [eval_longest, eval_shortest, ← outcomes]
  exact ⟨Action.favored_selects .longest (evals_steady rules depth ps) env n s,
    Action.favored_selects .shortest (evals_steady rules depth ps) env n s⟩

-- Of two branches that get equally far the first one is kept.
example :
    let letter (c : Char) : Parser Nat .unit := .pattern (.char c) "letter"
    let one : Parser Nat .nat := map (b := .nat) (fun _ => 1) (letter 'a')
    let two (k : Nat) : Parser Nat .nat := map (b := .nat) (fun _ => k) (seqRight one (letter 'b'))
    let env := Env.ofText "ab".toList "text" (PositionMap.ofSource [])
    let o := (longest [one, two 2, two 3]).eval (Rules.calls [] 0) env 1 (env.stateAt .start)
    o.reply = .ok 2 ∧ o.state.cursor = ⟨2, 2⟩ :=
  ⟨rfl, rfl⟩

end Parser

end Descent
