import Descent.Proofs.Parser.Congruence
import Descent.Proofs.Parser.Likeness

set_option autoImplicit false

namespace Descent.Likeness

open Descent.Action

variable {β : Type} {a b : Ty} {L : Likeness} {env env' : Env} {k : Nat} {s s' : State β}

namespace Outcomes

variable {o o' : Outcome β a}

theorem after {t : State β} (outcomes : L.Outcomes env t o o')
    (reaches : env.Reaches s.offset t.offset) : L.Outcomes env s o o' := by
  cases outcomes with
  | exhausted u => exact .exhausted u _
  | fail states => exact .fail states
  | hard failures states further => exact .hard failures states (reaches.trans further)
  | ok values states further => exact .ok values states (reaches.trans further)

theorem andThen {f f' : a.Value β → State β → Outcome β b} (outcomes : L.Outcomes env s o o')
    (next : ∀ {v v' t t'}, L.Values a v v' → L.States t t' → env.Reaches s.offset t.offset →
      L.Outcomes env s (f v t) (f' v' t')) :
    L.Outcomes env s (Action.andThen o f) (Action.andThen o' f') := by
  cases outcomes with
  | exhausted u => exact .exhausted u _
  | fail states => exact .fail states
  | hard failures states reaches => exact .hard failures states reaches
  | ok values states reaches => exact next values states reaches

theorem orElse {f f' : State β → Outcome β a} (outcomes : L.Outcomes env s o o')
    (next : ∀ {t t'}, L.States t t' → L.Outcomes env s (f t) (f' t')) :
    L.Outcomes env s (Action.orElse o f) (Action.orElse o' f') := by
  cases outcomes with
  | exhausted u => exact .exhausted u _
  | fail states => exact next states
  | hard failures states reaches =>
    have kept := Outcomes.hard (a := a) failures states reaches
    cases failures <;> exact kept
  | ok values states reaches => exact .ok values states reaches

theorem faulty (envs : L.Envs k env env') (i : Nat) (message : String) {t t' : State β}
    (states : L.States t t') (reaches : env.Reaches s.offset t.offset) :
    L.Outcomes env s (Action.faulty (a := a) (env.fault i message) t)
      (Action.faulty (env'.fault i message) t') :=
  .hard (.fault fun exact => envs.fault i message exact) states reaches

end Outcomes

theorem Actions.run {x y : Action β a} (actions : L.Actions x y)
    (envs : L.Envs s.offset env env') (states : L.States s s') :
    L.Outcomes env s (x.run env s) (y.run env' s') :=
  actions env env' _ s s' envs states

theorem actions_ret {v v' : a.Value β} (values : L.Values a v v') :
    L.Actions (ret v) (ret v') :=
  fun _ _ _ _ _ _ states => .ok values states .refl

theorem actions_reject (why : Rejection) :
    L.Actions (reject why : Action β a) (reject why) :=
  fun _ _ _ _ _ envs states => .fail (states.reject envs why)

theorem actions_raise (key : Key) : L.Actions (raise key : Action β a) (raise key) :=
  fun _ _ _ _ _ _ states => .hard (.signal key .none) states .refl

theorem actions_abort (message : String) :
    L.Actions (abort message : Action β a) (abort message) := by
  intro env env' n s s' envs states
  unfold abort
  rw [← states.offset]
  exact .hard (.user message (.some (envs.place s.offset))) states .refl

theorem actions_fault (message : String) :
    L.Actions (fault message : Action β a) (fault message) := by
  intro env env' n s s' envs states
  unfold fault
  rw [← states.offset]
  exact .faulty envs s.offset message states .refl

theorem actions_getIndex (plain : L.Plain) : L.Actions (getIndex : Action β .nat) getIndex := by
  intro env env' n s s' envs states
  unfold getIndex
  rw [← states.offset]
  exact .ok (plain.place_iff.1 (envs.place s.offset)) states .refl

theorem actions_eof (l : String) : L.Actions (eof l : Action β .unit) (eof l) := by
  intro env env' n s s' envs states
  unfold eof
  rw [← states.offset, ← envs.atEnd]
  split
  · exact .ok trivial states .refl
  · exact .fail (states.reject envs (.instead l))

theorem actions_token {f f' : Lexeme → Option (a.Value β)}
    (each : ∀ l l', L.lexeme l l' → Option.Rel (L.Values a) (f l) (f' l')) :
    L.Actions (token f) (token f') := by
  intro env env' n s s' envs states
  unfold token
  rw [← states.offset]
  obtain ⟨w, w', input, input', windows⟩ | ⟨r, r', input, input', runs⟩ := envs.cases
  · simp only [Env.lexeme?, input, input']
    exact .faulty envs s.offset _ states .refl
  · have lexeme := runs.lexemes s.offset
    have reaches : env.Reaches s.offset (s.next env).offset := by
      simp only [Env.Reaches, input]
    have accepted : Option.Rel (L.Values a) (r.lexemes[s.offset]?.bind f)
        (r'.lexemes[s.offset]?.bind f') := by
      generalize r.lexemes[s.offset]? = l at lexeme ⊢
      generalize r'.lexemes[s.offset]? = l' at lexeme ⊢
      cases lexeme with
      | none => exact .none
      | some same => exact each _ _ same
    simp only [Env.lexeme?, input, input']
    generalize r.lexemes[s.offset]?.bind f = v at accepted ⊢
    generalize r'.lexemes[s.offset]?.bind f' = v' at accepted ⊢
    cases accepted with
    | none => exact .fail (states.reject envs .encountered)
    | some values => exact .ok values (states.next envs) reaches

theorem actions_char (c : CharClass) {f f' : Char → a.Value β}
    (each : ∀ c, L.Values a (f c) (f' c)) : L.Actions (char c f) (char c f') := by
  intro env env' n s s' envs states
  unfold char
  rw [← states.offset]
  obtain ⟨w, w', input, input', windows⟩ | ⟨r, r', input, input', runs⟩ := envs.cases
  · have same : env.char? s.offset = env'.char? s.offset := by
      simp only [Env.char?, Env.rest, Env.window, input, input', Except.map, Window.rest,
        windows.rest]
    rw [← same]
    cases found : env.char? s.offset with
    | error e => simp [Env.char?, Env.rest, Env.window, input, Except.map] at found
    | ok here =>
      dsimp only
      cases accepted : here.filter c.test with
      | none => exact .fail (states.reject envs (.instead c.label))
      | some d =>
        obtain ⟨rfl, -⟩ := Option.filter_eq_some_iff.1 accepted
        obtain ⟨v, following, input', here⟩ := Env.rest_of_char? found
        obtain rfl : w = v := by simpa [input] using input'
        have reaches : env.Reaches s.offset (s.next env).offset := by
          simp only [Env.Reaches, input]
          refine .inr ⟨[d], following, here, ?_⟩
          have remains : w.rest s.offset = d :: following := by simp [Window.rest, here]
          simp only [State.next, State.offset, input] at remains ⊢
          simp [remains]
        exact .ok (each d) (states.next envs) reaches
  · simp only [Env.char?, Env.rest, Env.window, input, input', Except.map]
    exact .faulty envs s.offset _ states .refl

theorem actions_pattern (p : Pattern) (l : String) :
    L.Actions (pattern p l : Action β .unit) (pattern p l) := by
  intro env env' n s s' envs states
  unfold pattern
  rw [← states.offset]
  obtain ⟨w, w', input, input', windows⟩ | ⟨r, r', input, input', runs⟩ := envs.cases
  · simp only [Env.window, input, input', ← windows.rest]
    cases matched : (w.rest? s.offset).bind p.run with
    | none => exact .fail (states.reject envs (.instead l))
    | some n =>
      obtain ⟨text, here, matched⟩ := Option.bind_eq_some_iff.1 matched
      obtain ⟨q, following, rfl, rfl⟩ := p.run_fits text n matched
      have reaches : env.Reaches s.offset (s.skip (Text.size q)).offset := by
        simp only [Env.Reaches, input]
        exact .inr ⟨q, following, here, rfl⟩
      exact .ok trivial (states.skip _) reaches
  · simp only [Env.window, input, input']
    exact .faulty envs s.offset _ states .refl

section

variable {x y : Action β a}

theorem actions_lookahead (m : Nat) (actions : L.Actions x y) :
    L.Actions (lookahead m x) (lookahead m y) :=
  fun env env' _ s s' envs states => actions env env' m s s' envs states

theorem actions_lazy {make make' : Unit → Action β a} (actions : L.Actions (make ()) (make' ())) :
    L.Actions (lazy make) (lazy make') :=
  actions

theorem actions_bind {f f' : a.Value β → Action β b} (actions : L.Actions x y)
    (next : ∀ {v v'}, L.Values a v v' → L.Actions (f v) (f' v')) :
    L.Actions (bind x f) (bind y f') := by
  intro env env' n s s' envs states
  refine (actions.run envs states).andThen fun values states reaches => ?_
  exact ((next values).run (envs.onward reaches) states).after reaches

theorem actions_atomize (actions : L.Actions x y) : L.Actions (atomize x) (atomize y) := by
  intro env env' n s s' envs states
  have outcomes := actions.run envs states
  unfold atomize
  rw [← states.step, ← states.cursor]
  generalize x.run env s = o at outcomes ⊢
  generalize y.run env' s' = o' at outcomes ⊢
  cases outcomes with
  | exhausted t => exact .exhausted _ _
  | fail states => exact .fail (states.restore s.cursor)
  | hard failures states reaches => exact .hard failures (states.restore s.cursor) .refl
  | ok values states reaches => exact .ok values (states.setStep _) reaches

theorem actions_stepBy (m : Nat) (actions : L.Actions x y) :
    L.Actions (stepBy m x) (stepBy m y) := by
  intro env env' n s s' envs states
  unfold stepBy
  rw [← states.step]
  exact (actions.run envs states).andThen fun values states reaches =>
    .ok values (states.setStep _) reaches

theorem actions_peek (actions : L.Actions x y) : L.Actions (peek x) (peek y) := by
  intro env env' n s s' envs states
  have outcomes := actions.run envs states
  unfold peek
  rw [← states.cursor]
  generalize x.run env s = o at outcomes ⊢
  generalize y.run env' s' = o' at outcomes ⊢
  cases outcomes with
  | exhausted t => exact .exhausted _ _
  | fail states => exact .fail (states.restore s.cursor)
  | hard failures states reaches => exact .hard failures (states.restore s.cursor) .refl
  | ok values states reaches => exact .ok values (states.restore s.cursor) .refl

theorem actions_label (l : String) (actions : L.Actions x y) :
    L.Actions (label l x) (label l y) := by
  intro env env' n s s' envs states
  unfold label
  rw [← states.cursor]
  refine (actions env env' n s s' envs states).orElse fun {t t'} states => ?_
  rw [← states.cursor]
  split
  · exact .fail states
  · exact .fail (states.relabelError envs.place l)

theorem actions_isConsumed (message : String) (actions : L.Actions x y) :
    L.Actions (isConsumed message x) (isConsumed message y) := by
  intro env env' n s s' envs states
  unfold isConsumed
  rw [← states.cursor]
  refine (actions.run envs states).andThen fun {v v' t t'} values states reaches => ?_
  rw [← states.cursor]
  split
  · exact .ok values states reaches
  · exact .fail (states.reject (envs.onward reaches) _)

theorem actions_notConsumed (message : String) (actions : L.Actions x y) :
    L.Actions (notConsumed message x) (notConsumed message y) := by
  intro env env' n s s' envs states
  unfold notConsumed
  rw [← states.cursor]
  refine (actions.run envs states).andThen fun {v v' t t'} values states reaches => ?_
  rw [← states.cursor]
  split
  · exact .fail ((states.restore s.cursor).reject envs _)
  · exact .ok values states reaches

theorem actions_test {check check' : a.Value β → Bool} (l : Option String)
    (same : ∀ {v v'}, L.Values a v v' → check v = check' v') (actions : L.Actions x y) :
    L.Actions (test check l x) (test check' l y) := by
  intro env env' n s s' envs states
  unfold test
  rw [← states.cursor]
  refine (actions.run envs states).andThen fun {v v' t t'} values states reaches => ?_
  rw [same values]
  split
  · exact .ok values states reaches
  · exact .fail ((states.restore s.cursor).reject envs _)

theorem actions_tryMap {f f' : a.Value β → Except UserError (b.Value β)}
    (results : ∀ {v v'}, L.Values a v v' → L.Results b (f v) (f' v')) (actions : L.Actions x y) :
    L.Actions (tryMap f x) (tryMap f' y) := by
  intro env env' n s s' envs states
  unfold tryMap
  rw [← states.offset]
  refine (actions.run envs states).andThen fun {v v' t t'} values states reaches => ?_
  have results := results values
  generalize f v = r at results ⊢
  generalize f' v' = r' at results ⊢
  cases results with
  | ok values => exact .ok values states reaches
  | error message place =>
    refine .hard (.user message ?_) states reaches
    cases place with
    | none => exact .some (envs.place s.offset)
    | some place => exact .some place

theorem actions_ifElse {yes yes' : a.Value β → Action β b} {no no' : Action β b}
    (actions : L.Actions x y) (next : ∀ {v v'}, L.Values a v v' → L.Actions (yes v) (yes' v'))
    (other : L.Actions no no') : L.Actions (ifElse x yes no) (ifElse y yes' no') := by
  intro env env' n s s' envs states
  have outcomes := actions.run envs states
  unfold ifElse
  rw [← states.cursor]
  generalize x.run env s = o at outcomes ⊢
  generalize y.run env' s' = o' at outcomes ⊢
  cases outcomes with
  | exhausted t => exact .exhausted _ _
  | hard failures states reaches =>
    have kept := Outcomes.hard (a := b) failures states reaches
    cases failures <;> exact kept
  | ok values states reaches =>
    exact ((next values).run (envs.onward reaches) states).after reaches
  | @fail t t' states =>
    dsimp only
    rw [← states.cursor]
    split
    · exact .fail states
    · have others := other.run (s := (t.restore s.cursor).setError none) envs
        ((states.restore s.cursor).setError .none)
      generalize no.run env ((t.restore s.cursor).setError none) = o at others ⊢
      generalize no'.run env' ((t'.restore s.cursor).setError none) = o' at others ⊢
      cases others with
      | exhausted u => exact .exhausted _ _
      | fail later => exact .fail (later.mergeError states.error)
      | ok values later reaches => exact .ok values (later.setError states.error) reaches
      | hard failures later reaches =>
        have kept := Outcomes.hard (a := b) (s := s) failures later reaches
        cases failures <;> exact kept

theorem actions_tryCatch
    {handler handler' : Option (a.Value β) → Key → Handling β (a.Value β)}
    {resume resume' : Option (a.Value β) → Key → Action β a} (actions : L.Actions x y)
    (handles : ∀ {v v'} key, Option.Rel (L.Values a) v v' →
      L.Recoveries a (handler v key).recovery (handler' v' key).recovery)
    (resumes : ∀ {v v'} key, Option.Rel (L.Values a) v v' →
      L.Actions (resume v key) (resume' v' key)) :
    L.Actions (Action.tryCatch x handler resume) (Action.tryCatch y handler' resume') := by
  intro env env' n s s' envs states
  have before := states.error
  have outcomes := actions.run envs states
  unfold Action.tryCatch
  generalize x.run env s = o at outcomes ⊢
  generalize y.run env' s' = o' at outcomes ⊢
  cases outcomes with
  | exhausted t => exact .exhausted _ _
  | fail states => exact .fail states
  | ok values states reaches => exact .ok values states reaches
  | @hard e e' t t' failures states reaches =>
    cases failures with
    | user message place => exact .hard (.user message place) states reaches
    | fault same => exact .hard (.fault same) states reaches
    | @signal key c c' collected =>
      have values := typeds_collected collected a
      have kept : Option.Rel L.Typeds (if (c.bind (Typed.at? a)).isSome then none else c)
          (if (c'.bind (Typed.at? a)).isSome then none else c') := by
        generalize c.bind (Typed.at? a) = v at values ⊢
        generalize c'.bind (Typed.at? a) = v' at values ⊢
        cases values with
        | none => exact collected
        | some values => exact .none
      have recovered := handles key values
      have resumed := resumes key values
      dsimp only
      generalize (handler _ key).notes = notes
      generalize (handler' _ key).notes = notes'
      generalize (handler _ key).recovery = r at recovered ⊢
      generalize (handler' _ key).recovery = r' at recovered ⊢
      cases recovered with
      | value values => exact .ok values ((states.note _ _).setError before) reaches
      | resume =>
        exact (resumed.run (s := (t.note notes).setError s.error) (envs.onward reaches)
          ((states.note _ _).setError before)).after reaches
      | propagate left =>
        refine .hard (.signal key ?_) (states.note _ _) reaches
        cases left with
        | none => exact kept
        | some values => exact .some (.mk values)

theorem actions_traced (hook hook' : TraceEvent β a → List (Note β)) (actions : L.Actions x y) :
    L.Actions (traced x hook) (traced y hook') := by
  intro env env' n s s' envs states
  have outcomes := actions env env' n s s' envs states
  unfold traced
  generalize x env n s = o at outcomes ⊢
  generalize y env' n s' = o' at outcomes ⊢
  cases outcomes with
  | exhausted t => exact .exhausted _ _
  | fail states => exact .fail (states.note _ _)
  | hard failures states reaches => exact .hard failures (states.note _ _) reaches
  | ok values states reaches => exact .ok values (states.note _ _) reaches

theorem actions_named (name : String) (actions : L.Actions x y) :
    L.Actions (named name x) (named name y) := by
  intro env env' n s s' envs states
  have outcomes := actions env env' n s s' envs states
  unfold named
  generalize x env n s = o at outcomes ⊢
  generalize y env' n s' = o' at outcomes ⊢
  cases outcomes with
  | exhausted t => exact .exhausted _ _
  | fail states => exact .fail states
  | ok values states reaches => exact .ok values states reaches
  | @hard e e' t t' failures states reaches =>
    cases failures with
    | signal key collected => exact .hard (.signal key collected) states reaches
    | user message place => exact .hard (.user message place) states reaches
    | fault same =>
      refine .hard (.fault fun exact => ?_) states reaches
      obtain ⟨origin, positions⟩ := envs.report exact
      rw [same exact, origin, positions, ← states.offset, L.place_eq exact (envs.place t.offset)]

end

theorem sumFrom_lockstep {xs ys : List (Action β a)} (all : List.Forall₂ L.Actions xs ys) (n : Nat)
    {start : Cursor} {t t' : State β} (envs : L.Envs start.offset env env')
    (states : L.States t t') (same : t.cursor = start) :
    L.Outcomes env t (sumFrom env n start xs t) (sumFrom env' n start ys t') := by
  induction all generalizing t t' with
  | nil => exact .fail states
  | @cons x y xs ys one all ih =>
    subst same
    simp only [sumFrom]
    refine (one.run envs states).orElse fun {u u'} later => ?_
    rw [← later.cursor]
    split
    · exact .fail later
    · exact (ih ((later.mergeError states.error).restore t.cursor) rfl).after .refl

theorem actions_sum {xs ys : List (Action β a)} (all : List.Forall₂ L.Actions xs ys) :
    L.Actions (Action.sum xs) (Action.sum ys) := by
  intro env env' n s s' envs states
  unfold Action.sum
  rw [← states.cursor]
  exact sumFrom_lockstep all n envs states rfl

theorem favoredRest_lockstep (p : Preference) {xs ys : List (Action β a)}
    (all : List.Forall₂ L.Actions xs ys) {start best : Cursor} (same : s.cursor = start)
    (reaches : env.Reaches s.offset best.offset) (envs : L.Envs s.offset env env')
    {v v' : a.Value β} (values : L.Values a v v') {t t' : State β} (states : L.States t t') :
    L.Outcomes env s (favoredRest p env start xs v best t) (favoredRest p env' start ys v' best t')
    := by
  induction all generalizing v v' best t t' with
  | nil => exact .ok values (states.restore best) reaches
  | @cons x y xs ys one all ih =>
    subst same
    simp only [favoredRest]
    have outcomes := one.run (s := t.restore s.cursor) envs (states.restore s.cursor)
    generalize x.run env (t.restore s.cursor) = o at outcomes ⊢
    generalize y.run env' (t'.restore s.cursor) = o' at outcomes ⊢
    cases outcomes with
    | exhausted u => exact .exhausted _ _
    | fail later => exact ih reaches values later
    | hard failures later reaches =>
      have kept := Outcomes.hard (a := a) (s := s) failures later reaches
      cases failures <;> exact kept
    | ok values' later reaches' =>
      dsimp only
      rw [← later.offset, ← later.cursor]
      split
      · exact ih reaches' values' later
      · exact ih reaches values later

theorem favoredFrom_lockstep (p : Preference) {xs ys : List (Action β a)}
    (all : List.Forall₂ L.Actions xs ys) {start : Cursor} {e e' : Option Diagnostic}
    (error : Option.Rel L.Diagnostics e e') {t t' : State β}
    (envs : L.Envs start.offset env env') (states : L.States t t') (same : t.cursor = start) :
    L.Outcomes env t (favoredFrom p env start xs e t) (favoredFrom p env' start ys e' t') := by
  induction all generalizing e e' t t' with
  | nil => exact .fail (states.setError error)
  | @cons x y xs ys one all ih =>
    subst same
    simp only [favoredFrom]
    have outcomes := one.run envs states
    generalize x.run env t = o at outcomes ⊢
    generalize y.run env' t' = o' at outcomes ⊢
    cases outcomes with
    | exhausted u => exact .exhausted _ _
    | fail later =>
      have merged := later.mergeError error
      exact (ih merged.error ((merged.setError .none).restore t.cursor) rfl).after .refl
    | hard failures later reaches =>
      have kept := Outcomes.hard (a := a) failures later reaches
      cases failures <;> exact kept
    | ok values later reaches =>
      dsimp only
      rw [← later.cursor]
      exact favoredRest_lockstep p all rfl reaches envs values later

theorem actions_favored (p : Preference) {xs ys : List (Action β a)}
    (all : List.Forall₂ L.Actions xs ys) :
    L.Actions (Action.favored p xs) (Action.favored p ys) := by
  intro env env' n s s' envs states
  unfold Action.favored
  rw [← states.cursor]
  exact favoredFrom_lockstep p all .none envs states rfl

section

variable {x y : Action β a} {finish finish' : List (a.Value β) → b.Value β}

theorem loopFrom_lockstep (actions : L.Actions x y) (min : Nat) (max : Option Nat)
    (finishes : ∀ {vs vs'}, List.Forall₂ (L.Values a) vs vs' → L.Values b (finish vs) (finish' vs'))
    (fuel count : Nat) {vs vs' : List (a.Value β)} (lists : List.Forall₂ (L.Values a) vs vs')
    (envs : L.Envs s.offset env env') (states : L.States s s') :
    L.Outcomes env s (loopFrom x min max finish env fuel count vs s)
      (loopFrom y min max finish' env' fuel count vs' s') := by
  -- The bound on the rounds is the same in both runs, so it carries the induction.
  induction fuel generalizing count vs vs' s s' with
  | zero => exact .exhausted _ _
  | succ fuel ih =>
    have finished := finishes (List.rel_reverse lists)
    have outcomes := actions.run envs states
    simp only [loopFrom]
    rw [← states.cursor]
    split
    · exact .ok finished states .refl
    · generalize x.run env s = o at outcomes ⊢
      generalize y.run env' s' = o' at outcomes ⊢
      cases outcomes with
      | exhausted t => exact .exhausted _ _
      | fail later =>
        dsimp only
        rw [← later.cursor]
        split
        · exact .fail later
        · exact .ok finished (later.restore s.cursor) .refl
      | hard failures later reaches =>
        cases failures with
        | signal key collected => exact .hard (.signal key (.some (.mk finished))) later reaches
        | user message place => exact .hard (.user message place) later reaches
        | fault same => exact .hard (.fault same) later reaches
      | ok values later reaches =>
        dsimp only
        rw [← later.cursor]
        split
        · exact .ok finished later reaches
        · exact (ih (count + 1) (.cons values lists) (envs.onward reaches) later).after reaches

theorem actions_loop (min : Nat) (max : Option Nat) (actions : L.Actions x y)
    (finishes : ∀ {vs vs'}, List.Forall₂ (L.Values a) vs vs' →
      L.Values b (finish vs) (finish' vs')) :
    L.Actions (loop x min max finish) (loop y min max finish') := by
  intro env env' n s s' envs states
  unfold loop
  rw [← states.offset, ← envs.room]
  exact loopFrom_lockstep actions min max finishes _ 0 .nil envs states

end

section

variable {opening opening' closing closing' body body' : Action β .unit}

theorem offset_of_unmoved {t : State β}
    (unmoved : (Failure.isFail (.fail : Failure β) && !t.cursor.movedFrom s.cursor) = true) :
    t.offset = s.offset := by
  change t.cursor.offset = s.cursor.offset
  simpa [Failure.isFail, Cursor.movedFrom] using unmoved

theorem nestedFrom_lockstep (first : L.Actions opening opening') (last : L.Actions closing closing')
    (inner : L.Actions body body') (fuel level : Nat) (envs : L.Envs s.offset env env')
    (states : L.States s s') :
    L.Outcomes env s (nestedFrom opening closing body env fuel level s)
      (nestedFrom opening' closing' body' env' fuel level s') := by
  induction fuel generalizing level s s' with
  | zero =>
    cases level with
    | zero => exact .ok trivial states .refl
    | succ level => exact .exhausted _ _
  | succ fuel ih =>
    cases level with
    | zero => exact .ok trivial states .refl
    | succ level =>
      have closes := last.run envs states
      simp only [nestedFrom]
      rw [← states.cursor]
      generalize closing.run env s = o at closes ⊢
      generalize closing'.run env' s' = o' at closes ⊢
      cases closes with
      | exhausted t => exact .exhausted _ _
      | hard failures later reaches =>
        have kept := Outcomes.hard (a := .unit) failures later reaches
        cases failures <;> exact kept
      | @ok _ _ t t' values later reaches =>
        dsimp only
        rw [← later.cursor, ← later.offset]
        split
        · exact (ih level (envs.onward reaches) later).after reaches
        · exact .faulty envs t.offset _ later reaches
      | @fail t t' later =>
        dsimp only
        rw [← later.cursor]
        split
        case isFalse => exact .fail later
        case isTrue unmoved =>
          -- What was not there has left the run in place, so the inputs are still alike from here.
          have here : t.offset = s.offset := offset_of_unmoved unmoved
          rw [← here] at envs
          have back : env.Reaches s.offset t.offset := here ▸ .refl
          refine Outcomes.after ?_ back
          have opens := first.run envs later
          generalize opening.run env t = o at opens ⊢
          generalize opening'.run env' t' = o' at opens ⊢
          cases opens with
          | exhausted u => exact .exhausted _ _
          | hard failures further reaches =>
            have kept := Outcomes.hard (a := .unit) failures further reaches
            cases failures <;> exact kept
          | @ok _ _ u u' values further reaches =>
            dsimp only
            rw [← further.cursor, ← further.offset]
            split
            · exact (ih (level + 2) (envs.onward reaches) further).after reaches
            · exact .faulty envs u.offset _ further reaches
          | @fail u u' further =>
            dsimp only
            rw [← further.cursor]
            split
            case isFalse => exact .fail further
            case isTrue unmoved =>
              have there : u.offset = s.offset := offset_of_unmoved unmoved
              have back : env.Reaches t.offset u.offset := by
                rw [here, there]
                exact .refl
              rw [here, ← there] at envs
              refine Outcomes.after ?_ back
              refine (inner.run envs further).andThen fun {_ _ v v'} values last reaches => ?_
              rw [← last.cursor, ← last.offset]
              split
              · exact (ih (level + 1) (envs.onward reaches) last).after reaches
              · exact .faulty envs v.offset _ last reaches

theorem actions_nested (first : L.Actions opening opening') (last : L.Actions closing closing')
    (inner : L.Actions body body') :
    L.Actions (nested opening closing body) (nested opening' closing' body') := by
  intro env env' n s s' envs states
  refine (first.run envs states).andThen fun {_ _ t t'} values states reaches => ?_
  have envs := envs.onward reaches
  rw [← states.offset, ← envs.room]
  exact (nestedFrom_lockstep first last inner _ 1 envs states).after reaches

end

section

variable {x y : Action β a}

theorem actions_matched (actions : L.Actions x y) : L.Actions (matched x) (matched y) := by
  intro env env' n s s' envs states
  unfold matched
  rw [← states.offset]
  refine (actions.run envs states).andThen fun {_ _ t t'} values states reaches => ?_
  rw [← states.offset]
  obtain ⟨w, w', input, input', windows⟩ | ⟨r, r', input, input', runs⟩ := envs.cases
  · simp only [Env.window, input, input', windows.slice (reaches.chars input)]
    exact .ok rfl states reaches
  · simp only [Env.window, input, input']
    exact .faulty envs t.offset _ states reaches

theorem actions_lex (plain : L.Plain) {reader : TokenReader} (isLocal : reader.Local)
    (actions : L.Actions x y) : L.Actions (lex x reader) (lex y reader) := by
  intro env env' n s s' envs states
  unfold lex
  rw [← states.offset, ← states.step]
  refine (actions.run envs states).andThen fun {_ _ t t'} values states reaches => ?_
  rw [← states.offset]
  obtain ⟨w, w', input, input', windows⟩ | ⟨r, r', input, input', runs⟩ := envs.cases
  · have leads := reaches.chars input
    have length : s.offset + (t.offset - s.offset) = t.offset := by
      have := leads.le
      omega
    have same := isLocal w.source w'.source s.offset (t.offset - s.offset) (by
      rw [length]
      exact windows.slice leads)
    simp only [Env.window, input, input', same]
    split
    · exact .faulty envs t.offset _ states reaches
    · exact .ok (plain.lexeme_iff.2 rfl) (states.setStep _) reaches
  · simp only [Env.window, input, input']
    exact .faulty envs t.offset _ states reaches

theorem Plain.envs_ofTokens (plain : L.Plain) (source source' : List Char)
    (lexemes : List Lexeme) (stop : Nat) (eofTitle : String) (render : Token → String)
    (origin : String) {positions positions' : PositionMap}
    (same : L.exact → positions = positions') :
    L.Envs k (Env.ofTokens ⟨source, lexemes.toArray, stop, eofTitle, render⟩ origin positions)
      (Env.ofTokens ⟨source', lexemes.toArray, stop, eofTitle, render⟩ origin positions') := by
  refine ⟨.tokens ⟨rfl, fun i => ?_, rfl, rfl⟩, fun i => plain.place_refl _,
    fun exact => ⟨rfl, same exact⟩⟩
  cases lexemes.toArray[i]? with
  | none => exact .none
  | some l => exact .some (plain.lexeme_iff.2 rfl)

theorem Plain.envs_ofRange (plain : L.Plain) {source source' : List Char} {stop : Nat}
    (windows : (Window.make source stop).Alike k (Window.make source' stop)) (origin : String)
    {positions positions' : PositionMap} (same : L.exact → positions = positions') :
    L.Envs k (Env.ofRange source stop origin positions)
      (Env.ofRange source' stop origin positions') :=
  ⟨.chars windows, plain.place_refl, fun exact => ⟨rfl, same exact⟩⟩

theorem Envs.enter {inner inner' : Env} {first : Nat} (envs : L.Envs first inner inner')
    (number : L.Numbers s.nextId s'.nextId) :
    L.States (s.enter inner first) (s'.enter inner' first) := by
  refine ⟨rfl, .none, ?_, number⟩
  simp only [State.enter, Env.blankSeen]
  obtain ⟨w, w', input, input', windows⟩ | ⟨r, r', input, input', runs⟩ := envs.cases
  · simp only [input, input']
    exact .none
  · simp only [input, input']
    exact .some fun slot => by simp

theorem inside_lockstep (plain : L.Plain) (actions : L.Actions x y) {inner inner' : Env}
    {first : Nat} (envs : L.Envs first inner inner') (states : L.States s s') :
    L.Outcomes env s (inside x inner first s) (inside y inner' first s') := by
  have outcomes := actions.run (s := s.enter inner first) envs (envs.enter states.number)
  cases run : x.run inner (s.enter inner first) with
  | mk r u =>
    cases run' : y.run inner' (s'.enter inner' first) with
    | mk r' u' =>
      rw [inside_of_run run, inside_of_run run']
      rw [run, run'] at outcomes
      cases outcomes with
      | exhausted => exact .exhausted _ _
      | ok values later reaches =>
        refine .ok values ⟨?_, states.error, states.seen, later.number⟩ .refl
        simp only [State.setStep, states.step, states.cursor, later.step]
      | hard failures later reaches =>
        have counted : L.States { s with nextId := u.nextId, journal := u.journal }
            { s' with nextId := u'.nextId, journal := u'.journal } :=
          ⟨states.cursor, states.error, states.seen, later.number⟩
        cases failures with
        | signal key collected => exact .hard (.signal key collected) counted .refl
        | user message place => exact .hard (.user message place) counted .refl
        | fault same => exact .hard (.fault same) counted .refl
      | fail later =>
        refine .fail ⟨?_, later.error, states.seen, later.number⟩
        have place := plain.place_iff.1 (envs.place u.offset)
        simp only [← later.offset, place, states.step]

end

theorem actions_parseTokens (plain : L.Plain) {lexer lexer' : Action β (.list .lexeme)}
    {grammar grammar' : Action β a} (lexers : L.Actions lexer lexer')
    (grammars : L.Actions grammar grammar') (eofTitle : String) (render : Token → String)
    (origin : String) :
    L.Actions (parseTokens lexer grammar eofTitle render origin)
      (parseTokens lexer' grammar' eofTitle render origin) := by
  intro env env' n s s' envs states
  refine (lexers.run envs states).andThen fun {lexemes lexemes' t t'} values states reaches => ?_
  obtain rfl : lexemes = lexemes' := plain.values_iff (a := .list .lexeme).1 values
  have finish : env.index t.offset = env'.index t.offset :=
    plain.place_iff.1 (envs.place t.offset)
  dsimp only
  rw [← states.offset, ← finish]
  obtain ⟨w, w', input, input', windows⟩ | ⟨r, r', input, input', runs⟩ := envs.cases
  · simp only [Env.window, input, input']
    have inner := plain.envs_ofTokens (k := 0) w.source w'.source lexemes (env.index t.offset)
      eofTitle render origin fun exact => (envs.report exact).2
    exact (inside_lockstep plain grammars inner states).after reaches
  · simp only [Env.window, input, input']
    exact .faulty envs t.offset _ states reaches

theorem actions_scanChars (plain : L.Plain) {outer outer' : Action β a} {inner inner' : Action β b}
    (outers : L.Actions outer outer') (inners : L.Actions inner inner') (origin : String) :
    L.Actions (scanChars outer inner origin) (scanChars outer' inner' origin) := by
  intro env env' n s s' envs states
  unfold scanChars
  rw [← states.offset]
  refine (outers.run envs states).andThen fun {_ _ t t'} values states reaches => ?_
  rw [← states.offset]
  obtain ⟨w, w', input, input', windows⟩ | ⟨r, r', input, input', runs⟩ := envs.cases
  · simp only [Env.window, input, input']
    have inner := plain.envs_ofRange (windows.make (reaches.chars input)) origin fun exact =>
      (envs.report exact).2
    exact (inside_lockstep plain inners inner states).after reaches
  · simp only [Env.window, input, input']
    exact .faulty envs t.offset _ states reaches

/-- Parsers that differ only in values that they hold. A parser that is related to itself finds out
nothing that the likeness hides. -/
inductive Parsers (L : Likeness) (called : String → Prop) :
    {a : Ty} → Parser β a → Parser β a → Prop
  | ret {a : Ty} {v v' : a.Value β} (values : L.Values a v v') : Parsers L called (.ret v) (.ret v')
  | reject {a : Ty} (why : Rejection) : Parsers L called (.reject why : Parser β a) (.reject why)
  | raise {a : Ty} (key : Key) : Parsers L called (.raise key : Parser β a) (.raise key)
  | abort {a : Ty} (message : String) :
    Parsers L called (.abort message : Parser β a) (.abort message)
  | fault {a : Ty} (message : String) :
    Parsers L called (.fault message : Parser β a) (.fault message)
  | getIndex (plain : L.Plain) : Parsers L called .getIndex .getIndex
  | eof (l : String) : Parsers L called (.eof l) (.eof l)
  | token {a : Ty} {f f' : Lexeme → Option (a.Value β)}
    (each : ∀ l l', L.lexeme l l' → Option.Rel (L.Values a) (f l) (f' l')) :
    Parsers L called (.token f) (.token f')
  | char {a : Ty} (k : CharClass) {f f' : Char → a.Value β}
    (each : ∀ c, L.Values a (f c) (f' c)) : Parsers L called (.char k f) (.char k f')
  | pattern (p : Pattern) (l : String) : Parsers L called (.pattern p l) (.pattern p l)
  | matched {a : Ty} {p q : Parser β a} (parsers : Parsers L called p q) :
    Parsers L called (.matched p) (.matched q)
  | bind {a b : Ty} {p q : Parser β a} {f g : a.Value β → Parser β b}
    (parsers : Parsers L called p q)
    (next : ∀ {v v'}, L.Values a v v' → Parsers L called (f v) (g v')) :
    Parsers L called (.bind p f) (.bind q g)
  | atomize {a : Ty} {p q : Parser β a} (parsers : Parsers L called p q) :
    Parsers L called (.atomize p) (.atomize q)
  | lookahead {a : Ty} (n : Nat) {p q : Parser β a} (parsers : Parsers L called p q) :
    Parsers L called (.lookahead n p) (.lookahead n q)
  | stepBy {a : Ty} (n : Nat) {p q : Parser β a} (parsers : Parsers L called p q) :
    Parsers L called (.stepBy n p) (.stepBy n q)
  | peek {a : Ty} {p q : Parser β a} (parsers : Parsers L called p q) : Parsers L called (.peek p)
    (.peek q)
  | label {a : Ty} (l : String) {p q : Parser β a} (parsers : Parsers L called p q) :
    Parsers L called (.label l p) (.label l q)
  | isConsumed {a : Ty} (message : String) {p q : Parser β a} (parsers : Parsers L called p q) :
    Parsers L called (.isConsumed message p) (.isConsumed message q)
  | notConsumed {a : Ty} (message : String) {p q : Parser β a} (parsers : Parsers L called p q) :
    Parsers L called (.notConsumed message p) (.notConsumed message q)
  | test {a : Ty} {check check' : a.Value β → Bool} (l : Option String) {p q : Parser β a}
    (same : ∀ {v v'}, L.Values a v v' → check v = check' v') (parsers : Parsers L called p q) :
    Parsers L called (.test check l p) (.test check' l q)
  | ifElse {a b : Ty} {p q : Parser β a} {yes yes' : a.Value β → Parser β b}
    {no no' : Parser β b} (parsers : Parsers L called p q)
    (next : ∀ {v v'}, L.Values a v v' → Parsers L called (yes v) (yes' v'))
    (other : Parsers L called no no') :
    Parsers L called (.ifElse p yes no) (.ifElse q yes' no')
  | tryCatch {a : Ty} {p q : Parser β a}
    {handler handler' : Option (a.Value β) → Key → Handling β (a.Value β)}
    {resume resume' : Option (a.Value β) → Key → Parser β a} (parsers : Parsers L called p q)
    (handles : ∀ {v v'} key, Option.Rel (L.Values a) v v' →
      L.Recoveries a (handler v key).recovery (handler' v' key).recovery)
    (resumes : ∀ {v v'} key, Option.Rel (L.Values a) v v' →
      Parsers L called (resume v key) (resume' v' key)) :
    Parsers L called (.tryCatch p handler resume) (.tryCatch q handler' resume')
  | tryMap {a b : Ty} {f f' : a.Value β → Except UserError (b.Value β)} {p q : Parser β a}
    (results : ∀ {v v'}, L.Values a v v' → L.Results b (f v) (f' v'))
    (parsers : Parsers L called p q) :
    Parsers L called (.tryMap f p) (.tryMap f' q)
  | sum {a : Ty} {n : Nat} {branches branches' : Fin n → Parser β a}
    (each : ∀ i, Parsers L called (branches i) (branches' i)) :
    Parsers L called (.sum n branches) (.sum n branches')
  | favored {a : Ty} (preference : Preference) {n : Nat} {branches branches' : Fin n → Parser β a}
    (each : ∀ i, Parsers L called (branches i) (branches' i)) :
    Parsers L called (.favored preference n branches) (.favored preference n branches')
  | loop {a b : Ty} {p q : Parser β a} (min : Nat) (max : Option Nat)
    {finish finish' : List (a.Value β) → b.Value β} (parsers : Parsers L called p q)
    (finishes : ∀ {vs vs'}, List.Forall₂ (L.Values a) vs vs' →
      L.Values b (finish vs) (finish' vs')) :
    Parsers L called (.loop p min max finish) (.loop q min max finish')
  | nested {opening opening' closing closing' body body' : Parser β .unit}
    (first : Parsers L called opening opening') (last : Parsers L called closing closing')
    (inner : Parsers L called body body') :
    Parsers L called (.nested opening closing body) (.nested opening' closing' body')
  | lex (plain : L.Plain) {a : Ty} {p q : Parser β a} {reader : TokenReader}
    (isLocal : reader.Local) (parsers : Parsers L called p q) : Parsers L called (.lex p reader)
    (.lex q reader)
  | parseTokens (plain : L.Plain) {a : Ty} {lexer lexer' : Parser β (.list .lexeme)}
    {grammar grammar' : Parser β a} (eofTitle : String) (render : Token → String)
    (origin : String) (lexers : Parsers L called lexer lexer')
    (grammars : Parsers L called grammar grammar') :
    Parsers L called (.parseTokens lexer grammar eofTitle render origin)
      (.parseTokens lexer' grammar' eofTitle render origin)
  | scanChars (plain : L.Plain) {a b : Ty} {outer outer' : Parser β a} {inner inner' : Parser β b}
    (origin : String) (outers : Parsers L called outer outer')
    (inners : Parsers L called inner inner') :
    Parsers L called (.scanChars outer inner origin) (.scanChars outer' inner' origin)
  | traced {a : Ty} (hook hook' : TraceEvent β a → List (Note β)) {p q : Parser β a}
    (parsers : Parsers L called p q) : Parsers L called (.traced p hook) (.traced q hook')
  | lazy {a : Ty} {make make' : Unit → Parser β a}
    (each : ∀ u, Parsers L called (make u) (make' u)) :
    Parsers L called (.lazy make) (.lazy make')
  | rule {name : String} (member : called name) : Parsers L called (.rule name) (.rule name)
  | named {a : Ty} (name : String) {p q : Parser β a} (parsers : Parsers L called p q) :
    Parsers L called (.named name p) (.named name q)

theorem Parsers.eval {called : String → Prop} {calls calls' : Calls β}
    (rules : ∀ name, called name → L.Actions (calls name) (calls' name)) {p q : Parser β a}
    (parsers : L.Parsers called p q) : L.Actions (p.eval calls) (q.eval calls') := by
  induction parsers with
  | ret values => exact actions_ret values
  | reject why => exact actions_reject why
  | raise key => exact actions_raise key
  | abort message => exact actions_abort message
  | fault message => exact actions_fault message
  | getIndex plain => exact actions_getIndex plain
  | eof l => exact actions_eof l
  | token each => exact actions_token each
  | char k each => exact actions_char k each
  | pattern p l => exact actions_pattern p l
  | matched _ ih => exact actions_matched ih
  | bind _ _ ih ihNext => exact actions_bind ih ihNext
  | atomize _ ih => exact actions_atomize ih
  | lookahead n _ ih => exact actions_lookahead n ih
  | stepBy n _ ih => exact actions_stepBy n ih
  | peek _ ih => exact actions_peek ih
  | label l _ ih => exact actions_label l ih
  | isConsumed message _ ih => exact actions_isConsumed message ih
  | notConsumed message _ ih => exact actions_notConsumed message ih
  | test l same _ ih => exact actions_test l same ih
  | ifElse _ _ _ ih ihNext ihOther => exact actions_ifElse ih ihNext ihOther
  | tryCatch _ handles _ ih ihResumes => exact actions_tryCatch ih handles ihResumes
  | tryMap results _ ih => exact actions_tryMap results ih
  | sum _ ih => exact actions_sum (forall₂_ofFn ih)
  | favored preference _ ih => exact actions_favored preference (forall₂_ofFn ih)
  | loop min max _ finishes ih => exact actions_loop min max ih finishes
  | nested _ _ _ first last inner => exact actions_nested first last inner
  | lex plain isLocal _ ih => exact actions_lex plain isLocal ih
  | parseTokens plain eofTitle render origin _ _ lexers grammars =>
    exact actions_parseTokens plain lexers grammars eofTitle render origin
  | scanChars plain origin _ _ outers inners => exact actions_scanChars plain outers inners origin
  | traced hook hook' _ ih => exact actions_traced hook hook' ih
  | lazy _ ih => exact actions_lazy (ih ())
  | rule member => exact rules _ member
  | named name _ ih => exact actions_named name ih

theorem calls_lockstep {rules : Rules β}
    (each : ∀ name p, rules.find? name = some p → L.Parsers (fun _ => True) p p)
    {depth depth' : Nat} (le : depth ≤ depth') (name : String) :
    L.Actions (rules.calls depth name) (rules.calls depth' name) := by
  -- The first run may have fewer calls left at every level; where it has none it says nothing.
  induction depth generalizing depth' name with
  | zero => exact fun _ _ _ _ _ _ _ => .exhausted _ _
  | succ depth ih =>
    obtain ⟨further, rfl⟩ : ∃ n, depth' = n + 1 := ⟨depth' - 1, by omega⟩
    simp only [Rules.calls]
    cases found : rules.find? name with
    | none => exact actions_fault _
    | some p => exact (each name p found).eval fun name _ => ih (by omega) name

end Descent.Likeness
