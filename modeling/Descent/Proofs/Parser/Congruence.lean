import Descent.Proofs.Parser.State
import Mathlib.Data.List.Forall2

set_option autoImplicit false

namespace Descent

variable {β : Type} {a b : Ty}

/-- As many steps lead from `c` to `d` as from `c'` to `d'`, and both end at one offset. -/
structure Cursor.Parallel (c d c' d' : Cursor) : Prop where
  offset : d.offset = d'.offset
  grows : c.steps ≤ d.steps
  grows' : c'.steps ≤ d'.steps
  gain : d.steps - c.steps = d'.steps - c'.steps

namespace Cursor.Parallel

variable {c d e c' d' e' : Cursor}

theorem refl (same : c.offset = c'.offset) : Parallel c c c' c' :=
  ⟨same, Nat.le_refl _, Nat.le_refl _, by omega⟩

theorem trans (first : Parallel c d c' d') (second : Parallel d e d' e') :
    Parallel c e c' e' := by
  obtain ⟨-, grows, grows', gain⟩ := first
  obtain ⟨offset, later, later', more⟩ := second
  exact ⟨offset, by omega, by omega, by omega⟩

theorem add (move : Parallel c d c' d') (n : Nat) :
    Parallel c ⟨d.offset, c.steps + n⟩ c' ⟨d'.offset, c'.steps + n⟩ :=
  ⟨move.offset, by simp, by simp, by simp⟩

theorem step (move : Parallel c d c' d') (fits : d.steps < UInt64.size)
    (fits' : d'.steps < UInt64.size) :
    c.step ≤ d.step ∧ c'.step ≤ d'.step ∧ d.step - c.step = d'.step - c'.step := by
  obtain ⟨grows, counted⟩ := Cursor.step_sub move.grows fits
  obtain ⟨grows', counted'⟩ := Cursor.step_sub move.grows' fits'
  exact ⟨grows, grows', by rw [counted, counted']; exact move.gain⟩

theorem movedFrom (move : Parallel c d c' d') (same : c.offset = c'.offset) :
    d.movedFrom c = d'.movedFrom c' := by
  simp only [Cursor.movedFrom, move.offset, same]

theorem committedFrom (move : Parallel c d c' d') (same : c.offset = c'.offset) (n : Nat) :
    d.committedFrom c n = d'.committedFrom c' n := by
  have steps : d.stepsFrom c = d'.stepsFrom c' := move.gain
  rw [Cursor.committedFrom, Cursor.committedFrom, move.movedFrom same, steps]

end Cursor.Parallel

theorem forall₂_ofFn {α : Type} {k : Nat} {related : α → α → Prop} {f g : Fin k → α}
    (each : ∀ i, related (f i) (g i)) : List.Forall₂ related (List.ofFn f) (List.ofFn g) := by
  induction k with
  | zero => exact .nil
  | succ k ih =>
    rw [List.ofFn_succ, List.ofFn_succ]
    exact .cons (each 0) (ih fun i => each i.succ)

structure Exception.Comparison (like : Exception → Exception → Prop) : Prop where
  refl : ∀ e, like e e
  addFrame : ∀ {e e'} (f : Frame), like e e' → like (e.addFrame f) (e'.addFrame f)

theorem Exception.Comparison.eq : Comparison Eq :=
  ⟨fun _ => rfl, fun _ same => same ▸ rfl⟩

inductive Failure.Resembles (like : Exception → Exception → Prop) :
    Failure β → Failure β → Prop
  | fail : Resembles like .fail .fail
  | signal (s : Signal β) : Resembles like (.signal s) (.signal s)
  | user (e : UserError) : Resembles like (.user e) (.user e)
  | fault {e e' : Exception} (alike : like e e') : Resembles like (.fault e) (.fault e')
  | exhausted : Resembles like .exhausted .exhausted

theorem Failure.Resembles.isFail {like : Exception → Exception → Prop} {f f' : Failure β}
    (alike : f.Resembles like f') : f.isFail = f'.isFail := by
  cases alike <;> rfl

inductive Reply.Resembles (like : Exception → Exception → Prop) : Reply β a → Reply β a → Prop
  | ok (v : a.Value β) : Resembles like (.ok v) (.ok v)
  | error {f f' : Failure β} (alike : f.Resembles like f') : Resembles like (.error f) (.error f')

theorem Reply.Resembles.refl {like : Exception → Exception → Prop}
    (comparison : Exception.Comparison like) (r : Reply β a) : Reply.Resembles like r r := by
  rcases r with (_ | s | e | e | _) | v
  case ok => exact .ok v
  case error.fail => exact .error .fail
  case error.signal => exact .error (.signal s)
  case error.user => exact .error (.user e)
  case error.fault => exact .error (.fault (comparison.refl e))
  case error.exhausted => exact .error .exhausted

theorem Reply.Resembles.eq {r r' : Reply β a} (alike : Reply.Resembles Eq r r') : r = r' := by
  rcases alike with v | ⟨⟨⟩⟩ <;> simp_all

structure Outcome.Resembles (like : Exception → Exception → Prop) (c c' : Cursor)
    (o o' : Outcome β a) : Prop where
  reply : Reply.Resembles like o.reply o'.reply
  move : c.Parallel o.state.cursor c' o'.state.cursor

def Action.Resembles (like : Exception → Exception → Prop) (n : Nat) (x y : Action β a) : Prop :=
  ∀ (env : Env) (s s' : State β), s.offset = s'.offset →
    (x env n s).Resembles like s.cursor s'.cursor (y env n s')

section

variable {like : Exception → Exception → Prop}

theorem Outcome.Resembles.after {c d c' d' : Cursor} {o o' : Outcome β a}
    (alike : o.Resembles like d d' o') (move : c.Parallel d c' d') : o.Resembles like c c' o' :=
  ⟨alike.reply, move.trans alike.move⟩

namespace Action

variable {env : Env} {n : Nat} {s s' : State β} {x y : Action β a}

theorem Resembles.apply (alike : x.Resembles like n y) (env : Env) (same : s.offset = s'.offset) :
    ∃ r r' t t', x env n s = ⟨r, t⟩ ∧ y env n s' = ⟨r', t'⟩ ∧ Reply.Resembles like r r' ∧
      s.cursor.Parallel t.cursor s'.cursor t'.cursor :=
  ⟨_, _, _, _, rfl, rfl, (alike env s s' same).reply, (alike env s s' same).move⟩

theorem Resembles.run (alike : x.Resembles like defaultLookahead y) (env : Env)
    (same : s.offset = s'.offset) :
    ∃ r r' t t', x.run env s = ⟨r, t⟩ ∧ y.run env s' = ⟨r', t'⟩ ∧ Reply.Resembles like r r' ∧
      s.cursor.Parallel t.cursor s'.cursor t'.cursor :=
  alike.apply env same

theorem resembles_of_still {r r' : Reply β a} {t t' : State β} (same : s.offset = s'.offset)
    (alike : Reply.Resembles like r r') (still : t.cursor = s.cursor)
    (still' : t'.cursor = s'.cursor) :
    Outcome.Resembles like s.cursor s'.cursor (⟨r, t⟩ : Outcome β a) ⟨r', t'⟩ := by
  refine ⟨alike, ?_⟩
  rw [still, still']
  exact .refl same

theorem resembles_ret (v : a.Value β) : (ret v).Resembles like n (ret v) := fun _ _ _ same =>
  resembles_of_still same (.ok v) rfl rfl

theorem resembles_reject (why why' : Rejection) :
    (reject why : Action β a).Resembles like n (reject why') := fun _ _ _ same =>
  resembles_of_still same (.error .fail) (by simp) (by simp)

theorem resembles_raise (key : Key) : (raise key : Action β a).Resembles like n (raise key) :=
  fun _ _ _ same => resembles_of_still same (.error (.signal _)) rfl rfl

theorem resembles_abort (message : String) :
    (abort message : Action β a).Resembles like n (abort message) := by
  intro env s s' same
  simp only [abort, same]
  exact resembles_of_still same (.error (.user _)) rfl rfl

theorem resembles_getIndex : (getIndex : Action β .nat).Resembles like n getIndex := by
  intro env s s' same
  simp only [getIndex, ok, same]
  exact resembles_of_still same (.ok _) rfl rfl

theorem resembles_eof (l : String) : (eof l : Action β .unit).Resembles like n (eof l) := by
  intro env s s' same
  simp only [eof, ok, fail, same]
  by_cases atEnd : env.atEnd s'.offset = true
  · rw [if_pos atEnd, if_pos atEnd]
    exact resembles_of_still same (.ok _) rfl rfl
  · rw [if_neg atEnd, if_neg atEnd]
    exact resembles_of_still same (.error .fail) (by simp) (by simp)

theorem next_parallel (env : Env) (same : s.offset = s'.offset) :
    s.cursor.Parallel (s.next env).cursor s'.cursor (s'.next env).cursor := by
  have offset : (s.next env).cursor.offset = (s'.next env).cursor.offset := by
    simp only [State.next, same]
    rw [show s.cursor.offset = s'.cursor.offset from same]
  exact ⟨offset, by simp [State.next], by simp [State.next], by simp [State.next]⟩

theorem skip_parallel (k : Nat) (same : s.offset = s'.offset) :
    s.cursor.Parallel (s.skip k).cursor s'.cursor (s'.skip k).cursor := by
  have offset : (s.skip k).cursor.offset = (s'.skip k).cursor.offset :=
    congrArg (· + k) same
  by_cases zero : k = 0 <;>
    exact ⟨offset, by simp [State.skip, zero], by simp [State.skip, zero],
      by simp [State.skip, zero]⟩

section Faults

variable (comparison : Exception.Comparison like)

include comparison

theorem resembles_fault (message : String) :
    (fault message : Action β a).Resembles like n (fault message) := by
  intro env s s' same
  simp only [fault, faulty, same]
  exact resembles_of_still same (.error (.fault (comparison.refl _))) rfl rfl

theorem resembles_token (f : Lexeme → Option (a.Value β)) :
    (token f).Resembles like n (token f) := by
  intro env s s' same
  simp only [token, faulty, ok, fail, same]
  split
  · exact resembles_of_still same (.error (.fault (comparison.refl _))) rfl rfl
  · split
    · exact ⟨.ok _, next_parallel env same⟩
    · exact resembles_of_still same (.error .fail) (by simp) (by simp)

theorem resembles_char (k : CharClass) (f : Char → a.Value β) :
    (char k f).Resembles like n (char k f) := by
  intro env s s' same
  simp only [char, faulty, ok, fail, same]
  split
  · exact resembles_of_still same (.error (.fault (comparison.refl _))) rfl rfl
  · split
    · exact ⟨.ok _, next_parallel env same⟩
    · exact resembles_of_still same (.error .fail) (by simp) (by simp)

theorem resembles_pattern (p : Pattern) (l : String) :
    (pattern p l : Action β .unit).Resembles like n (pattern p l) := by
  intro env s s' same
  simp only [pattern, faulty, ok, fail, same]
  split
  · exact resembles_of_still same (.error (.fault (comparison.refl _))) rfl rfl
  · rename_i w window
    cases (w.rest? s'.offset).bind p.run with
    | some k => exact ⟨.ok _, skip_parallel k same⟩
    | none => exact resembles_of_still same (.error .fail) (by simp) (by simp)

end Faults

section Outcomes

variable {c c' : Cursor} {o o' : Outcome β a}

theorem andThen_resembles {f g : a.Value β → State β → Outcome β b}
    (alike : o.Resembles like c c' o')
    (next : ∀ v t t', c.Parallel t.cursor c' t'.cursor → (f v t).Resembles like c c' (g v t')) :
    (andThen o f).Resembles like c c' (andThen o' g) := by
  rcases o with ⟨r, t⟩
  rcases o' with ⟨r', t'⟩
  obtain ⟨replies, move⟩ := alike
  cases replies with
  | ok v => exact next v t t' move
  | error failed => exact ⟨.error failed, move⟩

theorem orElse_resembles {f g : State β → Outcome β a} (alike : o.Resembles like c c' o')
    (next : ∀ t t', c.Parallel t.cursor c' t'.cursor → (f t).Resembles like c c' (g t')) :
    (orElse o f).Resembles like c c' (orElse o' g) := by
  rcases o with ⟨r, t⟩
  rcases o' with ⟨r', t'⟩
  obtain ⟨replies, move⟩ := alike
  cases replies with
  | ok v => exact ⟨.ok v, move⟩
  | error failed =>
    cases id failed with
    | fail => exact next t t' move
    | _ => exact ⟨.error failed, move⟩

theorem fail_resembles {t t' : State β} (move : c.Parallel t.cursor c' t'.cursor) :
    (fail t : Outcome β a).Resembles like c c' (fail t') := ⟨.error .fail, move⟩

theorem ok_resembles (v : a.Value β) {t t' : State β} (move : c.Parallel t.cursor c' t'.cursor) :
    (ok v t).Resembles like c c' (ok v t') := ⟨.ok v, move⟩

end Outcomes

namespace Resembles

theorem lookahead (m : Nat) (alike : x.Resembles like m y) :
    (Action.lookahead m x).Resembles like n (Action.lookahead m y) :=
  fun env s s' same => alike env s s' same

theorem bind {f g : a.Value β → Action β b} (alike : x.Resembles like defaultLookahead y)
    (next : ∀ v, (f v).Resembles like defaultLookahead (g v)) :
    (Action.bind x f).Resembles like n (Action.bind y g) := fun env s s' same =>
  andThen_resembles (alike env s s' same) fun v t t' move =>
    (next v env t t' move.offset).after move

theorem atomize (alike : x.Resembles like defaultLookahead y) :
    (Action.atomize x).Resembles like n (Action.atomize y) := by
  intro env s s' same
  obtain ⟨r, r', t, t', first, first', replies, move⟩ := alike.run env same
  simp only [Action.atomize, first, first']
  cases replies with
  | error failed => exact resembles_of_still same (.error failed) rfl rfl
  | ok v => exact ok_resembles v (move.add 1)

theorem stepBy (m : Nat) (alike : x.Resembles like defaultLookahead y) :
    (Action.stepBy m x).Resembles like n (Action.stepBy m y) := fun env s s' same =>
  andThen_resembles (alike env s s' same) fun v _ _ move => ok_resembles v (move.add m)

theorem peek (alike : x.Resembles like defaultLookahead y) :
    (Action.peek x).Resembles like n (Action.peek y) := by
  intro env s s' same
  obtain ⟨r, r', t, t', first, first', replies, move⟩ := alike.run env same
  simp only [Action.peek, first, first']
  exact resembles_of_still same replies rfl rfl

theorem label (l : String) (alike : x.Resembles like n y) :
    (Action.label l x).Resembles like n (Action.label l y) := by
  refine fun env s s' same => orElse_resembles (alike env s s' same) fun t t' move => ?_
  rw [move.movedFrom same]
  split
  · exact fail_resembles move
  · exact fail_resembles (by simpa using move)

theorem isConsumed (message : String) (alike : x.Resembles like defaultLookahead y) :
    (Action.isConsumed message x).Resembles like n (Action.isConsumed message y) := by
  refine fun env s s' same => andThen_resembles (alike env s s' same) fun v t t' move => ?_
  rw [move.movedFrom same]
  split
  · exact ok_resembles v move
  · exact fail_resembles (by simpa using move)

theorem notConsumed (message : String) (alike : x.Resembles like defaultLookahead y) :
    (Action.notConsumed message x).Resembles like n (Action.notConsumed message y) := by
  refine fun env s s' same => andThen_resembles (alike env s s' same) fun v t t' move => ?_
  rw [move.movedFrom same]
  split
  · exact resembles_of_still same (.error .fail) (by simp) (by simp)
  · exact ok_resembles v move

theorem test (check : a.Value β → Bool) (l : Option String)
    (alike : x.Resembles like defaultLookahead y) :
    (Action.test check l x).Resembles like n (Action.test check l y) := by
  refine fun env s s' same => andThen_resembles (alike env s s' same) fun v t t' move => ?_
  split
  · exact ok_resembles v move
  · exact resembles_of_still same (.error .fail) (by simp) (by simp)

theorem tryMap (f : a.Value β → Except UserError (b.Value β))
    (alike : x.Resembles like defaultLookahead y) :
    (Action.tryMap f x).Resembles like n (Action.tryMap f y) := by
  refine fun env s s' same => andThen_resembles (alike env s s' same) fun v t t' move => ?_
  rw [same]
  split
  · exact ok_resembles _ move
  · exact ⟨.error (.user _), move⟩

theorem ifElse {yes yes' : a.Value β → Action β b} {no no' : Action β b}
    (alike : x.Resembles like defaultLookahead y)
    (accept : ∀ v, (yes v).Resembles like defaultLookahead (yes' v))
    (refuse : no.Resembles like defaultLookahead no') :
    (Action.ifElse x yes no).Resembles like n (Action.ifElse y yes' no') := by
  intro env s s' same
  obtain ⟨r, r', t, t', first, first', replies, move⟩ := alike.run env same
  simp only [Action.ifElse, first, first']
  cases replies with
  | ok v => exact (accept v env t t' move.offset).after move
  | error failed =>
    cases id failed with
    | fail =>
      simp only [move.committedFrom same n]
      split
      · exact fail_resembles move
      · have sameStart : ((t.restore s.cursor).setError none).offset =
            ((t'.restore s'.cursor).setError none).offset := same
        obtain ⟨r, r', u, u', other, other', replies, further⟩ := refuse.run env sameStart
        simp only [other, other']
        cases replies with
        | ok v => exact ok_resembles v further
        | error failed => cases id failed <;> exact ⟨.error failed, further⟩
    | _ => exact ⟨.error failed, move⟩

theorem tryCatch (handler : Option (a.Value β) → Key → Handling β (a.Value β))
    {resume resume' : Option (a.Value β) → Key → Action β a}
    (alike : x.Resembles like defaultLookahead y)
    (resumed : ∀ v key, (resume v key).Resembles like defaultLookahead (resume' v key)) :
    (Action.tryCatch x handler resume).Resembles like n (Action.tryCatch y handler resume') := by
  intro env s s' same
  obtain ⟨r, r', t, t', first, first', replies, move⟩ := alike.run env same
  simp only [Action.tryCatch, first, first']
  cases replies with
  | ok v => exact ⟨.ok v, move⟩
  | error failed =>
    cases id failed with
    | signal sig =>
      dsimp only
      split
      · exact ⟨.ok _, move⟩
      · exact (resumed _ _ env ((t.note _).setError s.error) ((t'.note _).setError s'.error)
          move.offset).after move
      · exact ⟨.error (.signal _), move⟩
    | _ => exact ⟨.error failed, move⟩

theorem traced (hook hook' : TraceEvent β a → List (Note β)) (alike : x.Resembles like n y) :
    (Action.traced x hook).Resembles like n (Action.traced y hook') := fun env s s' same =>
  ⟨(alike env s s' same).reply, (alike env s s' same).move⟩

theorem lazy {make make' : Unit → Action β a} (alike : (make ()).Resembles like n (make' ())) :
    (Action.lazy make).Resembles like n (Action.lazy make') := alike

theorem named (comparison : Exception.Comparison like) (name : String)
    (alike : x.Resembles like n y) :
    (Action.named name x).Resembles like n (Action.named name y) := by
  intro env s s' same
  obtain ⟨r, r', t, t', first, first', replies, move⟩ := alike.apply env same
  have same' : t.offset = t'.offset := move.offset
  simp only [Action.named, first, first']
  cases replies with
  | ok v => exact ⟨.ok v, move⟩
  | error failed =>
    cases id failed with
    | fault both =>
      simp only [same']
      exact ⟨.error (.fault (comparison.addFrame _ both)), move⟩
    | _ => exact ⟨.error failed, move⟩

end Resembles

abbrev AllResemble (like : Exception → Exception → Prop) (xs ys : List (Action β a)) : Prop :=
  List.Forall₂ (Resembles like defaultLookahead) xs ys

variable {xs ys : List (Action β a)}

theorem sumFrom_resembles (env : Env) (n : Nat) (alike : AllResemble like xs ys) {s s' : State β}
    (same : s.offset = s'.offset) :
    (sumFrom env n s.cursor xs s).Resembles like s.cursor s'.cursor
      (sumFrom env n s'.cursor ys s') := by
  induction alike generalizing s s' with
  | nil => exact resembles_of_still same (.error .fail) rfl rfl
  | @cons x y xs ys first _ ih =>
    refine orElse_resembles (first env s s' same) fun t t' move => ?_
    -- Parallel runs commit alike: both stop here, or both go on from where they began.
    rw [move.committedFrom same n]
    split
    · exact fail_resembles move
    · have sameStart : ((t.mergeError s.error).restore s.cursor).offset =
          ((t'.mergeError s'.error).restore s'.cursor).offset := same
      exact ih sameStart

theorem favoredRest_resembles (p : Preference) (env : Env) {start start' : Cursor}
    (same : start.offset = start'.offset) (alike : AllResemble like xs ys) (v : a.Value β)
    {best best' : Cursor} (move : start.Parallel best start' best') (s s' : State β) :
    (favoredRest p env start xs v best s).Resembles like start start'
      (favoredRest p env start' ys v best' s') := by
  induction alike generalizing v best best' s s' with
  | nil => exact ⟨.ok v, move⟩
  | @cons x y xs ys first _ ih =>
    have sameStart : (s.restore start).offset = (s'.restore start').offset := same
    obtain ⟨r, r', t, t', run, run', replies, further⟩ := first.run env sameStart
    simp only [favoredRest, run, run']
    cases replies with
    | ok w =>
      -- Which of two values is preferred depends on offsets only.
      have offset : t.offset = t'.offset := further.offset
      simp only [offset, move.offset]
      split
      · exact ih w further t t'
      · exact ih v move t t'
    | error failed =>
      cases id failed with
      | fail => exact ih v move t t'
      | _ => exact ⟨.error failed, further⟩

theorem favoredFrom_resembles (p : Preference) (env : Env) (alike : AllResemble like xs ys)
    (e e' : Option Diagnostic) {s s' : State β} (same : s.offset = s'.offset) :
    (favoredFrom p env s.cursor xs e s).Resembles like s.cursor s'.cursor
      (favoredFrom p env s'.cursor ys e' s') := by
  induction alike generalizing e e' s s' with
  | nil => exact resembles_of_still same (.error .fail) rfl rfl
  | @cons x y xs ys first others ih =>
    obtain ⟨r, r', t, t', run, run', replies, move⟩ := first.run env same
    simp only [favoredFrom, run, run']
    cases replies with
    | ok v => exact favoredRest_resembles p env same others v move t t'
    | error failed =>
      cases id failed with
      | fail =>
        have sameStart : (((t.mergeError e).setError none).restore s.cursor).offset =
            (((t'.mergeError e').setError none).restore s'.cursor).offset := same
        exact ih _ _ sameStart
      | _ => exact ⟨.error failed, move⟩

theorem resembles_sum (alike : AllResemble like xs ys) :
    (Action.sum xs).Resembles like n (Action.sum ys) := fun env _ _ same =>
  sumFrom_resembles env n alike same

theorem resembles_favored (p : Preference) (alike : AllResemble like xs ys) :
    (Action.favored p xs).Resembles like n (Action.favored p ys) := fun env _ _ same =>
  favoredFrom_resembles p env alike none none same

theorem loopFrom_resembles {min : Nat} {max : Option Nat} {finish : List (a.Value β) → b.Value β}
    (alike : x.Resembles like defaultLookahead y) (env : Env) (fuel count : Nat)
    (values : List (a.Value β)) {s s' : State β} (same : s.offset = s'.offset) :
    (loopFrom x min max finish env fuel count values s).Resembles like s.cursor s'.cursor
      (loopFrom y min max finish env fuel count values s') := by
  induction fuel generalizing count values s s' with
  | zero => exact resembles_of_still same (.error .exhausted) rfl rfl
  | succ fuel ih =>
    obtain ⟨r, r', t, t', first, first', replies, move⟩ := alike.run env same
    simp only [loopFrom, first, first']
    split
    · exact resembles_of_still same (.ok _) rfl rfl
    · cases replies with
      | ok v =>
        simp only [move.movedFrom same]
        split
        · exact ok_resembles _ move
        -- The next round begins at one offset again; the moves add up.
        · exact (ih (count + 1) (v :: values) move.offset).after move
      | error failed =>
        cases id failed with
        | fail =>
          simp only [move.movedFrom same]
          split
          · exact fail_resembles move
          · exact resembles_of_still same (.ok _) rfl rfl
        | signal sig => exact ⟨.error (.signal _), move⟩
        | _ => exact ⟨.error failed, move⟩

theorem Resembles.loop (min : Nat) (max : Option Nat) (finish : List (a.Value β) → b.Value β)
    (alike : x.Resembles like defaultLookahead y) :
    (Action.loop x min max finish).Resembles like n (Action.loop y min max finish) := by
  intro env s s' same
  simp only [Action.loop, same]
  exact loopFrom_resembles alike env _ 0 [] same

section Faults

variable {opening opening' closing closing' body body' : Action β .unit}
  {lexer lexer' : Action β (.list .lexeme)} {outer outer' : Action β b}
  (comparison : Exception.Comparison like)

include comparison

theorem faulty_resembles {c c' : Cursor} (e : Exception) {t t' : State β}
    (move : c.Parallel t.cursor c' t'.cursor) :
    (faulty e t : Outcome β a).Resembles like c c' (faulty e t') :=
  ⟨.error (.fault (comparison.refl e)), move⟩

theorem Resembles.matched (alike : x.Resembles like defaultLookahead y) :
    (Action.matched x).Resembles like n (Action.matched y) := by
  refine fun env s s' same => andThen_resembles (alike env s s' same) fun v t t' move => ?_
  have same' : t.offset = t'.offset := move.offset
  rw [same, same']
  split
  · exact faulty_resembles comparison _ move
  · exact ok_resembles _ move

theorem nestedFrom_resembles (first : opening.Resembles like defaultLookahead opening')
    (last : closing.Resembles like defaultLookahead closing')
    (between : body.Resembles like defaultLookahead body') (env : Env) (fuel level : Nat)
    {s s' : State β} (same : s.offset = s'.offset) :
    (nestedFrom opening closing body env fuel level s).Resembles like s.cursor s'.cursor
      (nestedFrom opening' closing' body' env fuel level s') := by
  induction fuel generalizing level s s' with
  | zero =>
    cases level with
    | zero => exact resembles_of_still same (.ok _) rfl rfl
    | succ level => exact resembles_of_still same (.error .exhausted) rfl rfl
  | succ fuel ih =>
    cases level with
    | zero => exact resembles_of_still same (.ok _) rfl rfl
    | succ level =>
      obtain ⟨r, r', t, t', run, run', replies, toT⟩ := last.run env same
      have sameT : t.offset = t'.offset := toT.offset
      have movedT := toT.movedFrom same
      simp only [nestedFrom, run, run']
      cases replies with
      | ok v =>
        simp only [sameT, movedT]
        split
        · exact (ih level sameT).after toT
        · exact faulty_resembles comparison _ toT
      | error failed =>
        obtain ⟨r, r', u, u', run, run', replies, further⟩ := first.run env sameT
        have toU := toT.trans further
        have sameU : u.offset = u'.offset := toU.offset
        have movedU := toU.movedFrom same
        simp only [failed.isFail, movedT, run, run']
        split
        · cases replies with
          | ok v =>
            simp only [sameU, movedU]
            split
            · exact (ih (level + 2) sameU).after toU
            · exact faulty_resembles comparison _ toU
          | error failed =>
            simp only [failed.isFail, movedU]
            split
            · have ran := (between env u u' sameU).after toU
              refine andThen_resembles ran fun w v v' toV => ?_
              have sameV : v.offset = v'.offset := toV.offset
              simp only [sameV, toV.movedFrom same]
              split
              · exact (ih (level + 1) sameV).after toV
              · exact faulty_resembles comparison _ toV
            · exact ⟨.error failed, toU⟩
        · exact ⟨.error failed, toT⟩

theorem Resembles.nested (first : opening.Resembles like defaultLookahead opening')
    (last : closing.Resembles like defaultLookahead closing')
    (between : body.Resembles like defaultLookahead body') :
    (Action.nested opening closing body).Resembles like n
      (Action.nested opening' closing' body') := by
  refine fun env s s' same => andThen_resembles (first env s s' same) fun v t t' move => ?_
  have same' : t.offset = t'.offset := move.offset
  rw [same']
  exact (nestedFrom_resembles comparison first last between env _ 1 same').after move

theorem Resembles.lex (reader : TokenReader) (alike : x.Resembles like defaultLookahead y) :
    (Action.lex x reader).Resembles like n (Action.lex y reader) := by
  refine fun env s s' same => andThen_resembles (alike env s s' same) fun v t t' move => ?_
  have same' : t.offset = t'.offset := move.offset
  simp only [same, same']
  split
  · exact faulty_resembles comparison _ move
  · split
    · exact faulty_resembles comparison _ move
    · exact ok_resembles _ (move.add 1)

omit comparison in
theorem inside_resembles (alike : x.Resembles like defaultLookahead y) (inner : Env) (first : Nat)
    (same : s.offset = s'.offset) :
    (inside x inner first s).Resembles like s.cursor s'.cursor (inside y inner first s') := by
  have sameStart : (s.enter inner first).offset = (s'.enter inner first).offset := rfl
  obtain ⟨r, r', t, t', run, run', replies, move⟩ := alike.run inner sameStart
  have offset : t.offset = t'.offset := move.offset
  have gain : t.steps = t'.steps := move.gain
  rw [inside_of_run run, inside_of_run run']
  cases replies with
  | ok v =>
    simp only [leave, gain]
    exact ok_resembles v ((Cursor.Parallel.refl same).add t'.steps)
  | error failed =>
    cases id failed with
    | fail =>
      simp only [leave, offset]
      exact fail_resembles ⟨rfl, Nat.le_refl _, Nat.le_refl _, by simp [State.steps]⟩
    | _ => exact resembles_of_still same (.error failed) rfl rfl

theorem Resembles.parseTokens (lexers : lexer.Resembles like defaultLookahead lexer')
    (alike : x.Resembles like defaultLookahead y) (eofTitle : String) (render : Token → String)
    (origin : String) :
    (Action.parseTokens lexer x eofTitle render origin).Resembles like n
      (Action.parseTokens lexer' y eofTitle render origin) := by
  refine fun env s s' same => andThen_resembles (lexers env s s' same) fun v t t' move => ?_
  have same' : t.offset = t'.offset := move.offset
  simp only [same']
  split
  · exact faulty_resembles comparison _ move
  · exact (inside_resembles alike _ 0 same').after move

theorem Resembles.scanChars (outers : outer.Resembles like defaultLookahead outer')
    (alike : x.Resembles like defaultLookahead y) (origin : String) :
    (Action.scanChars outer x origin).Resembles like n (Action.scanChars outer' y origin) := by
  refine fun env s s' same => andThen_resembles (outers env s s' same) fun v t t' move => ?_
  have same' : t.offset = t'.offset := move.offset
  simp only [same, same']
  split
  · exact faulty_resembles comparison _ move
  · exact (inside_resembles alike _ _ same').after move

end Faults

end Action

open Descent.Action

theorem Parser.eval_resembles (comparison : Exception.Comparison like) {calls calls' : Calls β}
    (rules : ∀ name n, (calls name).Resembles like n (calls' name)) (p : Parser β a) (n : Nat) :
    (p.eval calls).Resembles like n (p.eval calls') := by
  induction p generalizing n with
  | ret v => exact resembles_ret v
  | reject why => exact resembles_reject why why
  | raise key => exact resembles_raise key
  | abort message => exact resembles_abort message
  | fault message => exact resembles_fault comparison message
  | getIndex => exact resembles_getIndex
  | eof l => exact resembles_eof l
  | token f => exact resembles_token comparison f
  | char k f => exact resembles_char comparison k f
  | pattern p l => exact resembles_pattern comparison p l
  | matched p ih => exact .matched comparison (ih _)
  | bind p f ih ihf => exact (ih _).bind fun v => ihf v _
  | atomize p ih => exact (ih _).atomize
  | lookahead m p ih => exact (ih m).lookahead m
  | stepBy m p ih => exact (ih _).stepBy m
  | peek p ih => exact (ih _).peek
  | label l p ih => exact (ih n).label l
  | isConsumed message p ih => exact (ih _).isConsumed message
  | notConsumed message p ih => exact (ih _).notConsumed message
  | test check l p ih => exact (ih _).test check l
  | ifElse p yes no ih ihYes ihNo => exact (ih _).ifElse (fun v => ihYes v _) (ihNo _)
  | tryCatch p handler resume ih ihResume =>
    exact (ih _).tryCatch handler fun v key => ihResume v key _
  | tryMap f p ih => exact (ih _).tryMap f
  | sum k branches ih => exact resembles_sum (forall₂_ofFn fun i => ih i _)
  | favored preference k branches ih =>
    exact resembles_favored preference (forall₂_ofFn fun i => ih i _)
  | loop p min max finish ih => exact (ih _).loop min max finish
  | nested opening closing body ihOpening ihClosing ihBody =>
    exact .nested comparison (ihOpening _) (ihClosing _) (ihBody _)
  | lex scanner reader ih => exact .lex comparison reader (ih _)
  | parseTokens lexer grammar eofTitle render origin ihLexer ih =>
    exact .parseTokens comparison (ihLexer _) (ih _) eofTitle render origin
  | scanChars outer inner origin ihOuter ih =>
    exact .scanChars comparison (ihOuter _) (ih _) origin
  | traced p hook ih => exact (ih n).traced hook hook
  | lazy make ih => exact .lazy (ih () n)
  | rule name => exact rules name n
  | named name p ih => exact (ih n).named comparison name

end

end Descent
