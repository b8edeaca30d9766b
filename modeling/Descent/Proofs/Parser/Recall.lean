import Descent.Parser.Combinators
import Descent.Parser.Grammar
import Descent.Proofs.Parser.Ledger

set_option autoImplicit false

namespace Descent

variable {β : Type} {a b : Ty}

structure Outcome.Twins (env : Env) (w : Ledger) (n n' : Nat) (o o' : Outcome β a) : Prop where
  reply : o.reply = o'.reply
  states : o.state.Follow env w n n' o'.state

def Action.Indifferent (env : Env) (x : Action β a) : Prop :=
  ∀ (n : Nat) (w : Ledger) (s s' : State β), s.Twins env w s' →
    (x env n s).Twins env w s.nextId s'.nextId (x env n s')

variable {env : Env} {tokens : TokenRun} {w : Ledger} {n n' : Nat}

namespace Outcome.Twins

variable {o o' : Outcome β a} {t t' : State β}

theorem after (follow : t.Follow env w n n' t')
    (next : ∀ w', t.Twins env w' t' → o.Twins env w' t.nextId t'.nextId o') :
    o.Twins env w n n' o' := by
  refine ⟨?_, follow.trans fun w' twins => (next w' twins).states⟩
  obtain ⟨w', _, _, _, twins⟩ := follow
  exact (next w' twins).reply

theorem andThen (twins : o.Twins env w n n' o') {f g : a.Value β → State β → Outcome β b}
    (next : ∀ v t t', t.Follow env w n n' t' → (f v t).Twins env w n n' (g v t')) :
    (Action.andThen o f).Twins env w n n' (Action.andThen o' g) := by
  rcases o with ⟨r, t⟩
  rcases o' with ⟨r', t'⟩
  obtain ⟨⟨⟩, follow⟩ := twins
  cases r with
  | ok v => exact next v t t' follow
  | error e => exact ⟨rfl, follow⟩

theorem orElse (twins : o.Twins env w n n' o') {f g : State β → Outcome β a}
    (next : ∀ t t', t.Follow env w n n' t' → (f t).Twins env w n n' (g t')) :
    (Action.orElse o f).Twins env w n n' (Action.orElse o' g) := by
  rcases o with ⟨r, t⟩
  rcases o' with ⟨r', t'⟩
  obtain ⟨⟨⟩, follow⟩ := twins
  rcases r with (_ | _ | _ | _ | _) | v
  case error.fail => exact next t t' follow
  all_goals exact ⟨rfl, follow⟩

end Outcome.Twins

namespace Action

open Outcome

variable {x : Action β a} {s s' : State β}

theorem Indifferent.after (indifferent : x.Indifferent env) (m : Nat)
    (follow : s.Follow env w n n' s') : (x env m s).Twins env w n n' (x env m s') :=
  .after follow fun w' twins => indifferent m w' s s' twins

theorem Indifferent.apply (indifferent : x.Indifferent env) (m : Nat)
    (follow : s.Follow env w n n' s') :
    ∃ r t t', x env m s = ⟨r, t⟩ ∧ x env m s' = ⟨r, t'⟩ ∧ t.Follow env w n n' t' := by
  obtain ⟨reply, states⟩ := indifferent.after m follow
  exact ⟨_, _, _, rfl, by rw [reply], states⟩

theorem Indifferent.run (indifferent : x.Indifferent env) (follow : s.Follow env w n n' s') :
    ∃ r t t', x.run env s = ⟨r, t⟩ ∧ x.run env s' = ⟨r, t'⟩ ∧ t.Follow env w n n' t' :=
  indifferent.apply defaultLookahead follow

theorem indifferent_of_still (r : Nat → Reply β a) (still : ∀ n s, x env n s = ⟨r s.offset, s⟩) :
    x.Indifferent env := by
  intro n w s s' twins
  rw [still, still, twins.offset]
  exact ⟨rfl, .refl twins⟩

theorem window_of_tokens (input : env.input = .tokens tokens) (k : Nat) :
    env.window k = .error (env.fault k "char input requested from a token context") := by
  simp only [Env.window, input]

section

variable (input : env.input = .tokens tokens)

include input

theorem indifferent_reject (why : Rejection) : (reject why : Action β a).Indifferent env :=
  fun _ _ _ _ twins => ⟨rfl, (State.Follow.refl twins).reject input why⟩

theorem indifferent_eof (l : String) : (eof l : Action β .unit).Indifferent env := by
  intro n w s s' twins
  unfold eof
  rw [twins.offset]
  split
  · exact ⟨rfl, .refl twins⟩
  · exact ⟨rfl, (State.Follow.refl twins).reject input _⟩

theorem indifferent_token (f : Lexeme → Option (a.Value β)) : (token f).Indifferent env := by
  intro n w s s' twins
  have begun := State.Follow.refl twins
  unfold token
  rw [twins.offset]
  split
  · exact ⟨rfl, begun⟩
  · split
    · exact ⟨rfl, begun.next input⟩
    · exact ⟨rfl, begun.reject input _⟩

theorem indifferent_char (k : CharClass) (f : Char → a.Value β) : (char k f).Indifferent env :=
  indifferent_of_still (fun i => .error (.fault (env.fault i _))) fun _ s => by
    simp only [char, Env.char?, Env.rest, window_of_tokens input, Except.map]
    rfl

theorem indifferent_pattern (p : Pattern) (l : String) :
    (pattern p l : Action β .unit).Indifferent env :=
  indifferent_of_still (fun i => .error (.fault (env.fault i _))) fun _ s => by
    simp only [pattern, window_of_tokens input]
    rfl

end

section

variable (indifferent : x.Indifferent env)

include indifferent

theorem indifferent_lookahead (m : Nat) : (lookahead m x).Indifferent env :=
  fun _ w s s' twins => indifferent m w s s' twins

theorem indifferent_bind {f : a.Value β → Action β b} (next : ∀ v, (f v).Indifferent env) :
    (bind x f).Indifferent env := fun _ w s s' twins =>
  (indifferent _ w s s' twins).andThen fun v _ _ follow => (next v).after _ follow

theorem indifferent_atomize : (atomize x).Indifferent env := by
  intro n w s s' twins
  obtain ⟨r, t, t', first, first', follow⟩ := indifferent.run (.refl twins)
  simp only [atomize, first, first', State.steps, twins.cursor]
  cases r with
  | error e => exact ⟨rfl, follow.restore rfl⟩
  | ok v => exact ⟨rfl, follow.setStep _⟩

theorem indifferent_stepBy (m : Nat) : (stepBy m x).Indifferent env := by
  intro n w s s' twins
  refine (indifferent _ w s s' twins).andThen fun v t t' follow => ?_
  simp only [State.steps, twins.cursor]
  exact ⟨rfl, follow.setStep _⟩

theorem indifferent_peek : (peek x).Indifferent env := by
  intro n w s s' twins
  obtain ⟨r, t, t', first, first', follow⟩ := indifferent.run (.refl twins)
  simp only [peek, first, first']
  exact ⟨rfl, follow.restore twins.cursor⟩

theorem indifferent_tryMap (f : a.Value β → Except UserError (b.Value β)) :
    (tryMap f x).Indifferent env := by
  intro n w s s' twins
  refine (indifferent _ w s s' twins).andThen fun v t t' follow => ?_
  split
  · exact ⟨rfl, follow⟩
  · rw [twins.offset]
    exact ⟨rfl, follow⟩

theorem indifferent_ifElse {yes : a.Value β → Action β b} {no : Action β b}
    (accept : ∀ v, (yes v).Indifferent env) (refuse : no.Indifferent env) :
    (ifElse x yes no).Indifferent env := by
  intro n w s s' twins
  obtain ⟨r, t, t', first, first', follow⟩ := indifferent.run (.refl twins)
  simp only [ifElse, first, first']
  rcases r with (_ | _ | _ | _ | _) | v
  case ok => exact (accept v).after _ follow
  case error.fail =>
    dsimp only
    rw [follow.cursor, twins.cursor]
    split
    · exact ⟨rfl, follow⟩
    · refine .after follow fun w' left => ?_
      have aside := (left.restore s'.cursor).setError .none
      obtain ⟨r, u, u', other, other', further⟩ := refuse.run (.refl aside)
      simp only [other, other']
      rcases r with (_ | _ | _ | _ | _) | v
      case ok => exact ⟨rfl, further.setError left.error⟩
      case error.fail => exact ⟨rfl, further.mergeError left.error⟩
      all_goals exact ⟨rfl, further⟩
  all_goals exact ⟨rfl, follow⟩

theorem indifferent_tryCatch (handler : Option (a.Value β) → Key → Handling β (a.Value β))
    {resume : Option (a.Value β) → Key → Action β a}
    (resumes : ∀ v key, (resume v key).Indifferent env) :
    (tryCatch x handler resume).Indifferent env := by
  intro n w s s' twins
  obtain ⟨r, t, t', first, first', follow⟩ := indifferent.run (.refl twins)
  simp only [tryCatch, first, first']
  rcases r with (_ | sig | _ | _ | _) | v
  case error.signal =>
    dsimp only
    split
    · exact ⟨rfl, (follow.note _).setError twins.error⟩
    · exact (resumes _ _).after _ ((follow.note _).setError twins.error)
    · exact ⟨rfl, follow.note _⟩
  all_goals exact ⟨rfl, follow⟩

theorem indifferent_traced (hook : TraceEvent β a → List (Note β)) :
    (traced x hook).Indifferent env := by
  intro n w s s' twins
  obtain ⟨r, t, t', first, first', follow⟩ := indifferent.apply n (.refl twins)
  simp only [traced, first, first', follow.offset, follow.cursor, twins.offset, twins.cursor]
  exact ⟨rfl, follow.note _⟩

theorem indifferent_named (name : String) : (named name x).Indifferent env := by
  intro n w s s' twins
  obtain ⟨r, t, t', first, first', follow⟩ := indifferent.apply n (.refl twins)
  simp only [named, first, first']
  rcases r with (_ | _ | _ | _ | _) | v
  case error.fault =>
    simp only [follow.offset]
    exact ⟨rfl, follow⟩
  all_goals exact ⟨rfl, follow⟩

end

section

variable (indifferent : x.Indifferent env) (input : env.input = .tokens tokens)

include indifferent input

theorem indifferent_label (l : String) : (label l x).Indifferent env := by
  intro n w s s' twins
  refine (indifferent n w s s' twins).orElse fun t t' follow => ?_
  rw [follow.cursor, twins.cursor]
  split
  · exact ⟨rfl, follow⟩
  · exact ⟨rfl, follow.relabelError input l⟩

theorem indifferent_isConsumed (message : String) : (isConsumed message x).Indifferent env := by
  intro n w s s' twins
  refine (indifferent _ w s s' twins).andThen fun v t t' follow => ?_
  rw [follow.cursor, twins.cursor]
  split
  · exact ⟨rfl, follow⟩
  · exact ⟨rfl, follow.reject input _⟩

theorem indifferent_notConsumed (message : String) :
    (notConsumed message x).Indifferent env := by
  intro n w s s' twins
  refine (indifferent _ w s s' twins).andThen fun v t t' follow => ?_
  rw [follow.cursor, twins.cursor]
  split
  · exact ⟨rfl, (follow.restore rfl).reject input _⟩
  · exact ⟨rfl, follow⟩

theorem indifferent_test (check : a.Value β → Bool) (l : Option String) :
    (test check l x).Indifferent env := by
  intro n w s s' twins
  refine (indifferent _ w s s' twins).andThen fun v t t' follow => ?_
  rw [twins.cursor]
  split
  · exact ⟨rfl, follow⟩
  · exact ⟨rfl, (follow.restore rfl).reject input _⟩

theorem indifferent_matched : (matched x).Indifferent env := by
  intro n w s s' twins
  refine (indifferent _ w s s' twins).andThen fun v t t' follow => ?_
  simp only [window_of_tokens input, follow.offset]
  exact ⟨rfl, follow⟩

theorem indifferent_lex (reader : TokenReader) : (lex x reader).Indifferent env := by
  intro n w s s' twins
  refine (indifferent _ w s s' twins).andThen fun v t t' follow => ?_
  simp only [window_of_tokens input, follow.offset]
  exact ⟨rfl, follow⟩

theorem indifferent_scanChars (inner : Action β b) (origin : String) :
    (scanChars x inner origin).Indifferent env := by
  intro n w s s' twins
  refine (indifferent _ w s s' twins).andThen fun v t t' follow => ?_
  simp only [window_of_tokens input, follow.offset]
  exact ⟨rfl, follow⟩

end

theorem indifferent_parseTokens {lexer : Action β (.list .lexeme)}
    (indifferent : lexer.Indifferent env) (input : env.input = .tokens tokens)
    (grammar : Action β a) (eofTitle : String) (render : Token → String) (origin : String) :
    (parseTokens lexer grammar eofTitle render origin).Indifferent env := by
  intro n w s s' twins
  refine (indifferent _ w s s' twins).andThen fun v t t' follow => ?_
  simp only [window_of_tokens input, follow.offset]
  exact ⟨rfl, follow⟩

section

variable {xs : List (Action β a)} (each : ∀ x ∈ xs, x.Indifferent env)

include each

theorem sumFrom_twins (n : Nat) (start : Cursor) (twins : s.Twins env w s') :
    (sumFrom env n start xs s).Twins env w s.nextId s'.nextId (sumFrom env n start xs s') := by
  induction xs generalizing w s s' with
  | nil => exact ⟨rfl, .refl twins⟩
  | cons x xs ih =>
    obtain ⟨first, others⟩ := List.forall_mem_cons.1 each
    refine (first _ w s s' twins).orElse fun t t' follow => ?_
    rw [follow.cursor]
    split
    · exact ⟨rfl, follow⟩
    · exact .after ((follow.mergeError twins.error).restore rfl) fun _ twins => ih others twins

theorem indifferent_sum : (sum xs).Indifferent env := by
  intro n w s s' twins
  rw [sum, sum, twins.cursor]
  exact sumFrom_twins each n s'.cursor twins

theorem favoredRest_twins (p : Preference) (start best : Cursor) (v : a.Value β)
    (follow : s.Follow env w n n' s') :
    (favoredRest p env start xs v best s).Twins env w n n'
      (favoredRest p env start xs v best s') := by
  induction xs generalizing v best s s' with
  | nil => exact ⟨rfl, follow.restore rfl⟩
  | cons x xs ih =>
    obtain ⟨first, others⟩ := List.forall_mem_cons.1 each
    obtain ⟨r, t, t', run, run', further⟩ := first.run (follow.restore (c := start) rfl)
    simp only [favoredRest, run, run']
    rcases r with (_ | _ | _ | _ | _) | u
    case ok =>
      dsimp only
      rw [further.offset, further.cursor]
      split
      · exact ih others _ _ further
      · exact ih others _ _ further
    case error.fail => exact ih others _ _ further
    all_goals exact ⟨rfl, further⟩

theorem favoredFrom_twins (p : Preference) (start : Cursor) {e e' : Option Diagnostic}
    (twins : s.Twins env w s') (errors : Option.Rel (w.Pairs s.nextId s'.nextId) e e') :
    (favoredFrom p env start xs e s).Twins env w s.nextId s'.nextId
      (favoredFrom p env start xs e' s') := by
  induction xs generalizing w s s' e e' with
  | nil => exact ⟨rfl, (State.Follow.refl twins).setError errors⟩
  | cons x xs ih =>
    obtain ⟨first, others⟩ := List.forall_mem_cons.1 each
    obtain ⟨r, t, t', run, run', follow⟩ := first.run (.refl twins)
    simp only [favoredFrom, run, run']
    rcases r with (_ | _ | _ | _ | _) | v
    case ok =>
      dsimp only
      rw [follow.cursor]
      exact favoredRest_twins others p start _ v follow
    case error.fail =>
      refine .after (follow.mergeError errors) fun w' merged => ?_
      exact ih others ((merged.setError .none).restore start) merged.error
    all_goals exact ⟨rfl, follow⟩

theorem indifferent_favored (p : Preference) : (favored p xs).Indifferent env := by
  intro n w s s' twins
  rw [favored, favored, twins.cursor]
  exact favoredFrom_twins each p s'.cursor twins .none

end

theorem loopFrom_twins (indifferent : x.Indifferent env) (min : Nat) (max : Option Nat)
    (finish : List (a.Value β) → b.Value β) (fuel count : Nat) (values : List (a.Value β))
    (follow : s.Follow env w n n' s') :
    (loopFrom x min max finish env fuel count values s).Twins env w n n'
      (loopFrom x min max finish env fuel count values s') := by
  induction fuel generalizing count values s s' with
  | zero => exact ⟨rfl, follow⟩
  | succ fuel ih =>
    obtain ⟨r, t, t', first, first', further⟩ := indifferent.run follow
    simp only [loopFrom, first, first']
    split
    · exact ⟨rfl, follow⟩
    · rcases r with (_ | _ | _ | _ | _) | v
      case ok =>
        dsimp only
        rw [further.cursor, follow.cursor]
        split
        · exact ⟨rfl, further⟩
        · exact ih (count + 1) (v :: values) further
      case error.fail =>
        dsimp only
        rw [further.cursor, follow.cursor]
        split
        · exact ⟨rfl, further⟩
        · exact ⟨rfl, further.restore rfl⟩
      all_goals exact ⟨rfl, further⟩

theorem indifferent_loop (indifferent : x.Indifferent env) (min : Nat) (max : Option Nat)
    (finish : List (a.Value β) → b.Value β) : (loop x min max finish).Indifferent env := by
  intro n w s s' twins
  rw [loop, loop, twins.offset]
  exact loopFrom_twins indifferent min max finish _ 0 [] (.refl twins)

section

variable {opening closing body : Action β .unit} (opens : opening.Indifferent env)
  (closes : closing.Indifferent env) (fills : body.Indifferent env)

include opens closes fills

theorem nestedFrom_twins (fuel level : Nat) (follow : s.Follow env w n n' s') :
    (nestedFrom opening closing body env fuel level s).Twins env w n n'
      (nestedFrom opening closing body env fuel level s') := by
  induction fuel generalizing level s s' with
  | zero =>
    cases level with
    | zero => exact ⟨rfl, follow⟩
    | succ level => exact ⟨rfl, follow⟩
  | succ fuel ih =>
    cases level with
    | zero => exact ⟨rfl, follow⟩
    | succ level =>
      obtain ⟨r, t, t', last, last', toT⟩ := closes.run follow
      obtain ⟨q, u, u', first, first', toU⟩ := opens.run toT
      simp only [nestedFrom, last, last']
      cases r with
      | ok v =>
        dsimp only
        rw [toT.cursor, toT.offset, follow.cursor]
        split
        · exact ih level toT
        · exact ⟨rfl, toT⟩
      | error e =>
        dsimp only
        rw [toT.cursor, follow.cursor]
        split
        · simp only [first, first']
          cases q with
          | ok v =>
            dsimp only
            rw [toU.cursor, toU.offset]
            split
            · exact ih (level + 2) toU
            · exact ⟨rfl, toU⟩
          | error e =>
            dsimp only
            rw [toU.cursor]
            split
            · refine (fills.after _ toU).andThen fun v z z' toZ => ?_
              rw [toZ.cursor, toZ.offset]
              split
              · exact ih (level + 1) toZ
              · exact ⟨rfl, toZ⟩
            · exact ⟨rfl, toU⟩
        · exact ⟨rfl, toT⟩

theorem indifferent_nested : (nested opening closing body).Indifferent env := by
  intro n w s s' twins
  refine (opens _ w s s' twins).andThen fun v t t' follow => ?_
  rw [follow.offset]
  exact nestedFrom_twins opens closes fills _ 1 follow

end

end Action

open Descent.Action

theorem Parser.eval_indifferent (input : env.input = .tokens tokens) {calls : Calls β}
    (rules : ∀ name, (calls name).Indifferent env) (p : Parser β a) :
    (p.eval calls).Indifferent env := by
  induction p with
  | ret v => exact indifferent_of_still (fun _ => .ok v) fun _ _ => rfl
  | raise key => exact indifferent_of_still (fun _ => .error (.signal ⟨key, none⟩)) fun _ _ => rfl
  | abort message =>
    exact indifferent_of_still (fun k => .error (.user ⟨message, some (env.index k)⟩))
      fun _ _ => rfl
  | fault message =>
    exact indifferent_of_still (fun k => .error (.fault (env.fault k message))) fun _ _ => rfl
  | getIndex => exact indifferent_of_still (fun k => .ok (env.index k)) fun _ _ => rfl
  | reject why => exact indifferent_reject input why
  | eof l => exact indifferent_eof input l
  | token f => exact indifferent_token input f
  | char k f => exact indifferent_char input k f
  | pattern p l => exact indifferent_pattern input p l
  | matched p ih => exact indifferent_matched ih input
  | bind p f ih ihf => exact indifferent_bind ih ihf
  | atomize p ih => exact indifferent_atomize ih
  | lookahead m p ih => exact indifferent_lookahead ih m
  | stepBy m p ih => exact indifferent_stepBy ih m
  | peek p ih => exact indifferent_peek ih
  | label l p ih => exact indifferent_label ih input l
  | isConsumed message p ih => exact indifferent_isConsumed ih input message
  | notConsumed message p ih => exact indifferent_notConsumed ih input message
  | test check l p ih => exact indifferent_test ih input check l
  | ifElse p yes no ih ihYes ihNo => exact indifferent_ifElse ih ihYes ihNo
  | tryCatch p handler resume ih ihResume => exact indifferent_tryCatch ih handler ihResume
  | tryMap f p ih => exact indifferent_tryMap ih f
  | sum k branches ih =>
    refine indifferent_sum fun x member => ?_
    obtain ⟨i, rfl⟩ := List.mem_ofFn.1 member
    exact ih i
  | favored preference k branches ih =>
    refine indifferent_favored (fun x member => ?_) preference
    obtain ⟨i, rfl⟩ := List.mem_ofFn.1 member
    exact ih i
  | loop p min max finish ih => exact indifferent_loop ih min max finish
  | nested opening closing body opens closes fills => exact indifferent_nested opens closes fills
  | lex scanner reader ih => exact indifferent_lex ih input reader
  | parseTokens lexer grammar eofTitle render origin ih =>
    exact indifferent_parseTokens ih input _ eofTitle render origin
  | scanChars outer inner origin ih => exact indifferent_scanChars ih input _ origin
  | traced p hook ih => exact indifferent_traced ih hook
  | lazy make ih => exact fun n w s s' twins => ih () n w s s' twins
  | rule name => exact rules name
  | named name p ih => exact indifferent_named ih name

theorem Rules.calls_indifferent (input : env.input = .tokens tokens) (rules : Rules β)
    (depth : Nat) (name : String) : (rules.calls depth name).Indifferent env := by
  induction depth generalizing name with
  | zero => exact indifferent_of_still (fun _ => .error .exhausted) fun _ _ => rfl
  | succ depth ih =>
    unfold Rules.calls
    split
    · exact Parser.eval_indifferent input ih _
    · exact indifferent_of_still (fun k => .error (.fault (env.fault k missingMessage)))
        fun _ _ => rfl

/-- What can be done with a context. -/
inductive Deed (β : Type) where
  | move (f : Cursor → Cursor)
  | refuse (why : Rejection)
  | look
  | apply {a : Ty} (p : Parser β a) (depth lookahead : Nat)

/-- What is found out by it. -/
inductive Finding (β : Type) where
  | nothing
  | met (d : Detail)
  | reply {a : Ty} (r : Reply β a)

namespace Deed

def perform (rules : Rules β) (env : Env) (s : State β) : Deed β → Finding β × State β
  | move f => (.nothing, s.restore (f s.cursor))
  | refuse why => (.nothing, s.reject env why)
  | look => (.met (s.encountered env).1.detail, (s.encountered env).2)
  | apply p depth lookahead =>
    let o := p.eval (rules.calls depth) env lookahead s
    (.reply o.reply, o.state)

def performAll (rules : Rules β) (env : Env) : List (Deed β) → State β → List (Finding β) × State β
  | [], s => ([], s)
  | d :: ds, s =>
    let now := d.perform rules env s
    let later := performAll rules env ds now.2
    (now.1 :: later.1, later.2)

variable (rules : Rules β) {s s' : State β}

theorem perform_twins (input : env.input = .tokens tokens) (d : Deed β)
    (twins : s.Twins env w s') :
    (d.perform rules env s).1 = (d.perform rules env s').1 ∧
      (d.perform rules env s).2.Follow env w s.nextId s'.nextId (d.perform rules env s').2 := by
  have begun := State.Follow.refl twins
  cases d with
  | move f => exact ⟨rfl, begun.restore (congrArg f twins.cursor)⟩
  | refuse why => exact ⟨rfl, begun.reject input why⟩
  | look =>
    obtain ⟨w', agrees, le, le', met, pairs⟩ := twins.encountered input
    exact ⟨congrArg Finding.met pairs.same.detail, w', agrees, le, le', met⟩
  | apply p depth lookahead =>
    have calls := rules.calls_indifferent input depth
    obtain ⟨reply, states⟩ := p.eval_indifferent input calls lookahead w s s' twins
    exact ⟨congrArg Finding.reply reply, states⟩

theorem performAll_twins (input : env.input = .tokens tokens) (deeds : List (Deed β))
    (twins : s.Twins env w s') :
    (performAll rules env deeds s).1 = (performAll rules env deeds s').1 ∧
      ∃ w', (performAll rules env deeds s).2.Twins env w' (performAll rules env deeds s').2 := by
  induction deeds generalizing w s s' with
  | nil => exact ⟨rfl, w, twins⟩
  | cons d ds ih =>
    obtain ⟨now, w', _, _, _, met⟩ := perform_twins rules input d twins
    obtain ⟨later, ends⟩ := ih met
    exact ⟨congrArg₂ List.cons now later, ends⟩

end Deed

theorem State.twins_of_blank (input : env.input = .tokens tokens) (c : Cursor) (n : Nat)
    (notes : List (Note β)) :
    (⟨c, none, env.blankSeen, n, notes⟩ : State β).Twins env ⟨fun _ => .message 0 0 "", id⟩
      ⟨c, none, none, n, notes⟩ := by
  have empty (slot : Nat) (d : Diagnostic) : ¬ env.blankSeen.bind (·[slot]?) = some d := by
    simp [Env.blankSeen, input]
  refine ⟨rfl, rfl, .none, ⟨fun _ lt => lt, fun _ _ _ _ same => .inl same⟩, ?_, ?_, rfl⟩
  · exact fun slot d filled => absurd filled (empty slot d)
  · exact fun slot d filled => absurd filled (empty slot d)

theorem State.Recalls.of_filled {s : State β} (recalls : s.Recalls env)
    (input : env.input = .tokens tokens) {k : Nat} {d : Diagnostic}
    (filled : s.seen.bind (·[min k env.stop]?) = some d) :
    d = .encountered d.id (env.index k) (env.shown k) := by
  obtain ⟨-, place⟩ := recalls _ d filled
  rwa [Env.index_min_stop input, Env.shown_min_stop input] at place

namespace State.Twins

variable {s s' : State β}

theorem detail (twins : s.Twins env w s') :
    s.error.map Diagnostic.detail = s'.error.map Diagnostic.detail := by
  have errors := twins.error
  generalize s.error = e at errors ⊢
  generalize s'.error = e' at errors ⊢
  cases errors with
  | none => rfl
  | some pairs => exact congrArg some pairs.same.detail

theorem exception (twins : s.Twins env w s') (f : Failure β) :
    f.exception env s = f.exception env s' := by
  have detail := twins.detail
  have errors := twins.error
  unfold Failure.exception
  rw [twins.offset, detail]
  generalize s.error = e at errors ⊢
  generalize s'.error = e' at errors ⊢
  cases errors with
  | none => rfl
  | some pairs => simp only [pairs.same.index]

end State.Twins

theorem Outcome.Twins.toParse {o o' : Outcome β a} (twins : o.Twins env w n n' o') :
    o.toParse env = o'.toParse env := by
  rcases o with ⟨r, t⟩
  rcases o' with ⟨r', t'⟩
  obtain ⟨⟨⟩, w', -, -, -, states⟩ := twins
  have exceptions : (fun f : Failure β => f.exception env t) = fun f => f.exception env t' :=
    funext states.exception
  rw [Outcome.toParse, Outcome.toParse, exceptions, states.journal]

/-- Whatever has been done with a context over tokens, what it remembers of a place is what a
context without a memory finds there, and the replies are the same. -/
theorem Deed.memory_makes_no_difference (rules : Rules β) (tokens : TokenRun) (origin : String)
    (positions : PositionMap) (c : Cursor) (n : Nat) (notes : List (Note β))
    (deeds : List (Deed β)) :
    let env := Env.ofTokens tokens origin positions
    let start : State β := ⟨c, none, env.blankSeen, n, notes⟩
    let ran := performAll rules env deeds start
    let ran' := performAll rules env deeds { start with seen := none }
    let t := ran.2
    let t' := ran'.2
    (∀ (slot : Nat) (d : Diagnostic), t.seen.bind (·[slot]?) = some d →
      slot ≤ tokens.lexemes.size) ∧
    (∀ (k : Nat) (d : Diagnostic), t.seen.bind (·[min k tokens.lexemes.size]?) = some d →
      d = .encountered d.id (env.index k) (env.shown k) ∧
      (({ t with cursor := ⟨k, t.steps⟩, seen := none, nextId := d.id } :
        State β).encountered env).1 = d) ∧
    ran.1 = ran'.1 ∧ t.cursor = t'.cursor ∧ t.journal = t'.journal ∧
    t.error.map Diagnostic.detail = t'.error.map Diagnostic.detail ∧
    ∀ {a : Ty} (p : Parser β a) (depth lookahead : Nat),
      (p.eval (rules.calls depth) env lookahead t).toParse env =
        (p.eval (rules.calls depth) env lookahead t').toParse env := by
  intro env start ran ran' t t'
  have input : env.input = .tokens tokens := rfl
  -- A memory of blank cells remembers nothing, and at first the two runs differ in that alone.
  obtain ⟨found, w, twins⟩ :=
    performAll_twins rules input deeds (State.twins_of_blank input c n notes)
  refine ⟨fun slot d filled => (twins.recalls slot d filled).1, fun k d filled => ?_, found,
    twins.cursor, twins.journal, twins.detail, fun p depth lookahead => ?_⟩
  · have place := twins.recalls.of_filled input filled
    refine ⟨place, ?_⟩
    rw [State.encountered_anew input rfl]
    simp only [State.slot]
    rw [Env.index_min_stop input, Env.shown_min_stop input]
    exact place.symm
  · have calls := rules.calls_indifferent input depth
    exact (p.eval_indifferent input calls lookahead w t t' twins).toParse

theorem Deed.end_is_remembered :
    let tokens : TokenRun :=
      ⟨"a b".toList, #[⟨0, 1, .word .word "a"⟩, ⟨2, 1, .word .word "b"⟩], 3, "EOF", Token.render⟩
    let never : Parser Nat .base := .token fun _ => none
    let deeds : List (Deed Nat) :=
      [.look, .move fun c => ⟨c.offset + 2, 1⟩, .refuse .encountered,
        .apply (.plus [never, .label "word" never]) 0 1, .move fun _ => ⟨7, 1⟩, .look]
    let env := Env.ofTokens tokens "tokens" (PositionMap.ofSource tokens.source)
    let start : State Nat := ⟨.start, none, env.blankSeen, 0, []⟩
    let ran := performAll [] env deeds start
    let ran' := performAll [] env deeds { start with seen := none }
    ran.2.nextId + 3 = ran'.2.nextId ∧
      ran.2.error.map Diagnostic.detail = some ⟨3, some "EOF", [], ["word"], []⟩ ∧
      ran.1 = ran'.1 ∧ ran.2.error.map Diagnostic.detail = ran'.2.error.map Diagnostic.detail ∧
      ∃ d, ran.2.seen.bind (·[min 7 tokens.lexemes.size]?) = some d ∧
        d = .encountered d.id (env.index 7) (env.shown 7) := by
  intro tokens never deeds env start ran ran'
  have numbers : ran.2.nextId + 3 = ran'.2.nextId := by decide +kernel
  have said : ran.2.error.map Diagnostic.detail = some ⟨3, some "EOF", [], ["word"], []⟩ := by
    decide +kernel
  have filled : (ran.2.seen.bind (·[min 7 tokens.lexemes.size]?)).isSome = true := by
    decide +kernel
  obtain ⟨d, here⟩ := Option.isSome_iff_exists.1 filled
  -- What follows is not to be found by running the deeds.
  clear_value deeds
  obtain ⟨-, recalls, found, -, -, error, -⟩ := memory_makes_no_difference [] tokens "tokens"
    (PositionMap.ofSource tokens.source) .start 0 [] deeds
  exact ⟨numbers, said, found, error, d, here, (recalls 7 d here).1⟩

end Descent
