import Descent.Proofs.Parser.Input

set_option autoImplicit false

namespace Descent

variable {β : Type} {a b : Ty}

/-- A run over `env` that begins in `s` may come to `t`. `nests` says which nested runs may be
entered, by the state where the construct began, their environment and the offset at which they
begin. -/
inductive State.Evolves (nests : Env → State β → Env → Nat → Prop) :
    Env → State β → State β → Prop
  | refl {env : Env} {s : State β} : Evolves nests env s s
  | trans {env : Env} {s t u : State β} (first : Evolves nests env s t)
      (second : Evolves nests env t u) : Evolves nests env s u
  | next {env : Env} {s : State β} (within : env.Within (s.next env).offset) :
      Evolves nests env s (s.next env)
  | skip {env : Env} {s : State β} (n : Nat) (within : env.Within (s.offset + n)) :
      Evolves nests env s (s.skip n)
  | reject {env : Env} {s : State β} (why : Rejection) : Evolves nests env s (s.reject env why)
  | relabel {env : Env} {s : State β} (l : String) :
      Evolves nests env s (Action.relabelError l env s)
  | note {env : Env} {s : State β} (notes : List (Note β)) : Evolves nests env s (s.note notes)
  | setStep {env : Env} {s t : State β} {n : Nat} (evolves : Evolves nests env s t)
      (le : s.steps ≤ n) : Evolves nests env s (t.setStep n)
  | restore {env : Env} {s t u : State β} (evolves : Evolves nests env s t)
      (been : Evolves nests env s u) : Evolves nests env s (t.restore u.cursor)
  | regain {env : Env} {s t : State β} {e : Option Diagnostic} (evolves : Evolves nests env s t)
      (earlier : ∀ d, e = some d → s.error = some d) : Evolves nests env s (t.setError e)
  | merge {env : Env} {s t : State β} {e : Option Diagnostic} (evolves : Evolves nests env s t)
      (earlier : ∀ d, e = some d → s.error = some d) : Evolves nests env s (t.mergeError e)
  | inside {env inner : Env} {first : Nat} {s t u : State β} {a : Ty} (r : Reply β a)
      (allowed : nests env s inner first) (evolves : Evolves nests env s t)
      (nested : Evolves nests inner (t.enter inner first) u) :
      Evolves nests env s (Action.leave inner t u r).state

variable {nests : Env → State β → Env → Nat → Prop}

namespace State.Evolves

variable {env : Env} {s t : State β}

theorem back (evolves : s.Evolves nests env t) : s.Evolves nests env (t.restore s.cursor) :=
  evolves.restore .refl

theorem clear (evolves : s.Evolves nests env t) : s.Evolves nests env (t.setError none) :=
  evolves.trans (.regain .refl (by simp))

end State.Evolves

def Action.Regular (nests : Env → State β → Env → Nat → Prop) (x : Action β a) : Prop :=
  ∀ (env : Env) (n : Nat) (s : State β), s.Evolves nests env (x env n s).state

namespace Action

variable {x : Action β a}

theorem Regular.apply (regular : x.Regular nests) (env : Env) (n : Nat) (s : State β) :
    ∃ r t, x env n s = ⟨r, t⟩ ∧ s.Evolves nests env t :=
  ⟨_, _, rfl, regular env n s⟩

theorem Regular.run (regular : x.Regular nests) (env : Env) (s : State β) :
    ∃ r t, x.run env s = ⟨r, t⟩ ∧ s.Evolves nests env t :=
  regular.apply env defaultLookahead s

theorem regular_of_still (still : ∀ env n s, (x env n s).state = s) : x.Regular nests := by
  intro env n s
  rw [still]
  exact .refl

theorem regular_reject (why : Rejection) : (reject why : Action β a).Regular nests :=
  fun _ _ _ => .reject why

theorem regular_eof (l : String) : (eof l : Action β .unit).Regular nests := by
  intro env n s
  unfold eof
  split
  · exact .refl
  · exact .reject (.instead l)

theorem regular_token (f : Lexeme → Option (a.Value β)) : (token f).Regular nests := by
  intro env n s
  unfold token
  split
  · exact .refl
  · rename_i l found
    split
    · rename_i v accepted
      obtain ⟨l, rfl, -⟩ := Option.bind_eq_some_iff.1 accepted
      exact .next (Env.within_next_of_lexeme? found)
    · exact .reject .encountered

theorem regular_char (k : CharClass) (f : Char → a.Value β) : (char k f).Regular nests := by
  intro env n s
  unfold char
  split
  · exact .refl
  · rename_i here found
    split
    · rename_i c accepted
      obtain rfl : here = some c := (Option.filter_eq_some_iff.1 accepted).1
      exact .next (Env.within_next_of_char? found)
    · exact .reject (.instead k.label)

theorem regular_pattern (p : Pattern) (l : String) :
    (pattern p l : Action β .unit).Regular nests := by
  intro env n s
  unfold pattern
  split
  · exact .refl
  · rename_i w window
    split
    · rename_i k matched
      exact .skip k (Env.within_skip_of_run window matched)
    · exact .reject (.instead l)

theorem regular_lookahead (n : Nat) (regular : x.Regular nests) : (lookahead n x).Regular nests :=
  fun env _ s => regular env n s

theorem regular_bind {f : a.Value β → Action β b} (regular : x.Regular nests)
    (next : ∀ v, (f v).Regular nests) : (bind x f).Regular nests := by
  intro env n s
  obtain ⟨r, t, first, evolves⟩ := regular.run env s
  simp only [bind, andThen, first]
  cases r with
  | error e => exact evolves
  | ok v => exact evolves.trans (next v env _ t)

theorem regular_matched (regular : x.Regular nests) : (matched x).Regular nests := by
  intro env n s
  obtain ⟨r, t, first, evolves⟩ := regular.run env s
  simp only [matched, andThen, first]
  cases r with
  | error e => exact evolves
  | ok v => dsimp only; split <;> exact evolves

theorem regular_atomize (regular : x.Regular nests) : (atomize x).Regular nests := by
  intro env n s
  obtain ⟨r, t, first, evolves⟩ := regular.run env s
  simp only [atomize, first]
  cases r with
  | error e => exact evolves.back
  | ok v => exact evolves.setStep (Nat.le_succ _)

theorem regular_stepBy (n : Nat) (regular : x.Regular nests) : (stepBy n x).Regular nests := by
  intro env _ s
  obtain ⟨r, t, first, evolves⟩ := regular.run env s
  simp only [stepBy, andThen, first]
  cases r with
  | error e => exact evolves
  | ok v => exact evolves.setStep (Nat.le_add_right _ _)

theorem regular_peek (regular : x.Regular nests) : (peek x).Regular nests := by
  intro env n s
  obtain ⟨r, t, first, evolves⟩ := regular.run env s
  simp only [peek, first]
  exact evolves.back

theorem regular_label (l : String) (regular : x.Regular nests) : (label l x).Regular nests := by
  intro env n s
  obtain ⟨r, t, first, evolves⟩ := regular.apply env n s
  simp only [label, orElse, first]
  rcases r with (_ | _ | _ | _ | _) | v
  case error.fail =>
    dsimp only
    split
    · exact evolves
    · exact evolves.trans (.relabel l)
  all_goals exact evolves

theorem regular_isConsumed (message : String) (regular : x.Regular nests) :
    (isConsumed message x).Regular nests := by
  intro env n s
  obtain ⟨r, t, first, evolves⟩ := regular.run env s
  simp only [isConsumed, andThen, first]
  cases r with
  | error e => exact evolves
  | ok v =>
    dsimp only
    split
    · exact evolves
    · exact evolves.trans (.reject (.message message))

theorem regular_notConsumed (message : String) (regular : x.Regular nests) :
    (notConsumed message x).Regular nests := by
  intro env n s
  obtain ⟨r, t, first, evolves⟩ := regular.run env s
  simp only [notConsumed, andThen, first]
  cases r with
  | error e => exact evolves
  | ok v =>
    dsimp only
    split
    · exact evolves.back.trans (.reject (.message message))
    · exact evolves

theorem regular_test (check : a.Value β → Bool) (l : Option String) (regular : x.Regular nests) :
    (test check l x).Regular nests := by
  intro env n s
  obtain ⟨r, t, first, evolves⟩ := regular.run env s
  simp only [test, andThen, first]
  cases r with
  | error e => exact evolves
  | ok v =>
    dsimp only
    split
    · exact evolves
    · exact evolves.back.trans (.reject _)

theorem regular_tryMap (f : a.Value β → Except UserError (b.Value β)) (regular : x.Regular nests) :
    (tryMap f x).Regular nests := by
  intro env n s
  obtain ⟨r, t, first, evolves⟩ := regular.run env s
  simp only [tryMap, andThen, first]
  cases r with
  | error e => exact evolves
  | ok v => dsimp only; split <;> exact evolves

theorem regular_ifElse {yes : a.Value β → Action β b} {no : Action β b}
    (regular : x.Regular nests) (regularYes : ∀ v, (yes v).Regular nests)
    (regularNo : no.Regular nests) : (ifElse x yes no).Regular nests := by
  intro env n s
  obtain ⟨r, t, first, evolves⟩ := regular.run env s
  simp only [ifElse, first]
  rcases r with (_ | _ | _ | _ | _) | v
  case ok => exact evolves.trans (regularYes v env _ t)
  case error.fail =>
    dsimp only
    split
    · exact evolves
    · obtain ⟨r, u, other, further⟩ := regularNo.run env ((t.restore s.cursor).setError none)
      have aside : (t.restore s.cursor).Evolves nests env u :=
        State.Evolves.trans (.clear .refl) further
      rw [other]
      rcases r with (_ | _ | _ | _ | _) | v
      case ok => exact evolves.back.trans (aside.regain fun _ left => left)
      case error.fail => exact evolves.back.trans (aside.merge fun _ left => left)
      all_goals exact evolves.back.trans aside
  all_goals exact evolves

theorem regular_tryCatch (handler : Option (a.Value β) → Key → Handling β (a.Value β))
    {resume : Option (a.Value β) → Key → Action β a} (regular : x.Regular nests)
    (regularResume : ∀ v key, (resume v key).Regular nests) :
    (tryCatch x handler resume).Regular nests := by
  intro env n s
  obtain ⟨r, t, first, evolves⟩ := regular.run env s
  simp only [tryCatch, first]
  rcases r with (_ | sig | _ | _ | _) | v
  case error.signal =>
    have caught (notes : List (Note β)) :
        s.Evolves nests env ((t.note notes).setError s.error) :=
      (evolves.trans (.note notes)).regain fun _ left => left
    dsimp only
    split
    · exact caught _
    · exact (caught _).trans (regularResume _ _ env _ _)
    · exact evolves.trans (.note _)
  all_goals exact evolves

theorem sumFrom_evolves (env : Env) (n : Nat) {xs : List (Action β a)}
    (regular : ∀ x ∈ xs, x.Regular nests) {start : Cursor} {s : State β}
    (same : s.cursor = start) : s.Evolves nests env (sumFrom env n start xs s).state := by
  subst same
  induction xs generalizing s with
  | nil => exact .refl
  | cons x xs ih =>
    have later : ∀ y ∈ xs, y.Regular nests :=
      fun y member => regular y (List.mem_cons_of_mem _ member)
    obtain ⟨r, t, first, evolves⟩ := (regular x List.mem_cons_self).run env s
    simp only [sumFrom, orElse, first]
    rcases r with (_ | _ | _ | _ | _) | v
    case error.fail =>
      dsimp only
      split
      · exact evolves
      -- The failure of the branch is merged with those before it, and the next one starts over.
      · exact (evolves.merge fun _ left => left).back.trans (ih later)
    all_goals exact evolves

theorem regular_sum {xs : List (Action β a)} (regular : ∀ x ∈ xs, x.Regular nests) :
    (sum xs).Regular nests :=
  fun env n _ => sumFrom_evolves env n regular rfl

theorem favoredRest_evolves (p : Preference) (env : Env) {xs : List (Action β a)}
    (regular : ∀ x ∈ xs, x.Regular nests) (v : a.Value β) {s t u : State β}
    (evolves : s.Evolves nests env t) (best : s.Evolves nests env u) :
    s.Evolves nests env (favoredRest p env s.cursor xs v u.cursor t).state := by
  -- `s` is where the alternation began, `t` where the latest branch ended, `u` where the best did.
  induction xs generalizing v t u with
  | nil => exact evolves.restore best
  | cons x xs ih =>
    have later : ∀ y ∈ xs, y.Regular nests :=
      fun y member => regular y (List.mem_cons_of_mem _ member)
    obtain ⟨r, t', other, further⟩ := (regular x List.mem_cons_self).run env (t.restore s.cursor)
    have whole := evolves.back.trans further
    simp only [favoredRest, other]
    rcases r with (_ | _ | _ | _ | _) | w
    case ok =>
      dsimp only
      split
      · exact ih later w whole whole
      · exact ih later v whole best
    case error.fail => exact ih later v whole best
    all_goals exact whole

theorem favoredFrom_evolves (p : Preference) (env : Env) {xs : List (Action β a)}
    (regular : ∀ x ∈ xs, x.Regular nests) {e : Option Diagnostic} {s u : State β}
    (same : u.cursor = s.cursor) (evolves : u.Evolves nests env s)
    (sofar : ∀ d, e = some d → u.error = some d) :
    u.Evolves nests env (favoredFrom p env s.cursor xs e s).state := by
  induction xs generalizing e s u with
  | nil => exact evolves.regain sofar
  | cons x xs ih =>
    have later : ∀ y ∈ xs, y.Regular nests :=
      fun y member => regular y (List.mem_cons_of_mem _ member)
    obtain ⟨r, t, first, further⟩ := (regular x List.mem_cons_self).run env s
    simp only [favoredFrom, first]
    rcases r with (_ | _ | _ | _ | _) | v
    case ok => exact evolves.trans (favoredRest_evolves p env later v further further)
    case error.fail =>
      have merged := ((evolves.trans further).merge sofar).back
      rw [same] at merged
      have again : ((t.mergeError e).restore s.cursor).Evolves nests env
          (((t.mergeError e).setError none).restore s.cursor) := State.Evolves.refl.clear
      dsimp only
      exact merged.trans
        (ih (s := ((t.mergeError e).setError none).restore s.cursor) later rfl again
          fun d left => left)
    all_goals exact evolves.trans further

theorem regular_favored (p : Preference) {xs : List (Action β a)}
    (regular : ∀ x ∈ xs, x.Regular nests) : (favored p xs).Regular nests :=
  fun env _ _ => favoredFrom_evolves p env regular rfl .refl (by simp)

theorem loopFrom_evolves {min : Nat} {max : Option Nat} {finish : List (a.Value β) → b.Value β}
    (regular : x.Regular nests) (env : Env) (fuel count : Nat) (values : List (a.Value β))
    (s : State β) :
    s.Evolves nests env (loopFrom x min max finish env fuel count values s).state := by
  induction fuel generalizing count values s with
  | zero => exact .refl
  | succ fuel ih =>
    obtain ⟨r, t, first, evolves⟩ := regular.run env s
    simp only [loopFrom, first]
    split
    · exact .refl
    · rcases r with (_ | _ | _ | _ | _) | v
      case ok =>
        dsimp only
        split
        · exact evolves
        · exact evolves.trans (ih (count + 1) (v :: values) t)
      case error.fail =>
        dsimp only
        split
        · exact evolves
        · exact evolves.back
      all_goals exact evolves

theorem regular_loop (min : Nat) (max : Option Nat) (finish : List (a.Value β) → b.Value β)
    (regular : x.Regular nests) : (loop x min max finish).Regular nests :=
  fun env _ s => loopFrom_evolves regular env _ 0 [] s

theorem nestedFrom_evolves {opening closing body : Action β .unit}
    (regularOpening : opening.Regular nests) (regularClosing : closing.Regular nests)
    (regularBody : body.Regular nests) (env : Env) (fuel level : Nat) (s : State β) :
    s.Evolves nests env (nestedFrom opening closing body env fuel level s).state := by
  induction fuel generalizing level s with
  | zero => cases level <;> exact .refl
  | succ fuel ih =>
    cases level with
    | zero => exact .refl
    | succ level =>
      obtain ⟨r, t, first, toT⟩ := regularClosing.run env s
      simp only [nestedFrom, first]
      cases r with
      | ok v =>
        dsimp only
        split
        · exact toT.trans (ih level t)
        · exact toT
      | error e =>
        obtain ⟨r, u, second, further⟩ := regularOpening.run env t
        have toU := toT.trans further
        simp only [second]
        split
        · cases r with
          | ok v =>
            dsimp only
            split
            · exact toU.trans (ih (level + 2) u)
            · exact toU
          | error e =>
            obtain ⟨r, v, third, last⟩ := regularBody.run env u
            have toV := toU.trans last
            simp only [andThen, third]
            split
            · cases r with
              | error e => exact toV
              | ok w =>
                dsimp only
                split
                · exact toV.trans (ih (level + 1) v)
                · exact toV
            · exact toU
        · exact toT

theorem regular_nested {opening closing body : Action β .unit}
    (regularOpening : opening.Regular nests) (regularClosing : closing.Regular nests)
    (regularBody : body.Regular nests) : (nested opening closing body).Regular nests := by
  intro env n s
  obtain ⟨r, t, first, evolves⟩ := regularOpening.run env s
  simp only [nested, andThen, first]
  cases r with
  | error e => exact evolves
  | ok v =>
    exact evolves.trans (nestedFrom_evolves regularOpening regularClosing regularBody env _ 1 t)

theorem regular_lex (reader : TokenReader) (regular : x.Regular nests) :
    (lex x reader).Regular nests := by
  intro env n s
  obtain ⟨r, t, first, evolves⟩ := regular.run env s
  simp only [lex, andThen, first]
  cases r with
  | error e => exact evolves
  | ok v =>
    dsimp only
    split
    · exact evolves
    · split
      · exact evolves
      · exact evolves.setStep (Nat.le_succ _)

theorem inside_evolves (regular : x.Regular nests) {env inner : Env} {first : Nat} {s t : State β}
    (evolves : s.Evolves nests env t) (allowed : nests env s inner first) :
    s.Evolves nests env (inside x inner first t).state := by
  obtain ⟨r, u, run, nested⟩ := regular.run inner (t.enter inner first)
  rw [inside_of_run run]
  exact .inside r allowed evolves nested

def Feeds (nests : Env → State β → Env → Nat → Prop) (lexer : Action β (.list .lexeme)) : Prop :=
  ∀ (env : Env) (w : Window) (s t : State β) (lexemes : List Lexeme) (eofTitle : String)
    (render : Token → String) (origin : String),
    lexer.run env s = ⟨.ok lexemes, t⟩ → env.input = .chars w → s.Evolves nests env t →
      nests env s
        (.ofTokens ⟨w.source, lexemes.toArray, env.index t.offset, eofTitle, render⟩ origin
          env.positions) 0

theorem regular_parseTokens {lexer : Action β (.list .lexeme)} (regularLexer : lexer.Regular nests)
    (feeds : lexer.Feeds nests) (regular : x.Regular nests) (eofTitle : String)
    (render : Token → String) (origin : String) :
    (parseTokens lexer x eofTitle render origin).Regular nests := by
  intro env n s
  obtain ⟨r, t, first, evolves⟩ := regularLexer.run env s
  simp only [parseTokens, andThen, first]
  cases r with
  | error e => exact evolves
  | ok lexemes =>
    dsimp only
    split
    · exact evolves
    · rename_i w window
      have input := Env.input_of_window window
      exact inside_evolves regular evolves
        (feeds env w s t lexemes eofTitle render origin first input evolves)

def Rescans (nests : Env → State β → Env → Nat → Prop) : Prop :=
  ∀ (env : Env) (w : Window) (s t : State β) (origin : String), env.input = .chars w →
    s.Evolves nests env t → nests env s (.ofRange w.source t.offset origin env.positions) s.offset

theorem regular_scanChars (rescans : Rescans nests) {outer : Action β b}
    (regularOuter : outer.Regular nests) (regular : x.Regular nests) (origin : String) :
    (scanChars outer x origin).Regular nests := by
  intro env n s
  obtain ⟨r, t, first, evolves⟩ := regularOuter.run env s
  simp only [scanChars, andThen, first]
  cases r with
  | error e => exact evolves
  | ok v =>
    dsimp only
    split
    · exact evolves
    · rename_i w window
      have input := Env.input_of_window window
      exact inside_evolves regular evolves (rescans env w s t origin input evolves)

theorem regular_traced (hook : TraceEvent β a → List (Note β)) (regular : x.Regular nests) :
    (traced x hook).Regular nests := by
  intro env n s
  obtain ⟨r, t, first, evolves⟩ := regular.apply env n s
  simp only [traced, first]
  exact evolves.trans (.note _)

theorem regular_lazy {make : Unit → Action β a} (regular : ∀ u, (make u).Regular nests) :
    (lazy make).Regular nests := fun env n s => regular () env n s

theorem regular_named (name : String) (regular : x.Regular nests) :
    (named name x).Regular nests := by
  intro env n s
  obtain ⟨r, t, first, evolves⟩ := regular.apply env n s
  simp only [named, first]
  rcases r with (_ | _ | _ | _ | _) | v <;> exact evolves

end Action

open Descent.Action

def Parser.Lexers (calls : Calls β) (good : Action β (.list .lexeme) → Prop) {a : Ty} :
    Parser β a → Prop
  | .ret _ | .reject _ | .raise _ | .abort _ | .fault _ | .getIndex | .eof _ | .token _
  | .char _ _ | .pattern _ _ | .rule _ => True
  | .matched p | .atomize p | .lookahead _ p | .stepBy _ p | .peek p | .label _ p
  | .isConsumed _ p | .notConsumed _ p | .test _ _ p | .tryMap _ p | .loop p _ _ _ | .lex p _
  | .traced p _ | .named _ p => p.Lexers calls good
  | .bind p f => p.Lexers calls good ∧ ∀ v, (f v).Lexers calls good
  | .ifElse p yes no =>
    p.Lexers calls good ∧ (∀ v, (yes v).Lexers calls good) ∧ no.Lexers calls good
  | .tryCatch p _ resume => p.Lexers calls good ∧ ∀ v key, (resume v key).Lexers calls good
  | .sum _ branches | .favored _ _ branches => ∀ i, (branches i).Lexers calls good
  | .nested opening closing body =>
    opening.Lexers calls good ∧ closing.Lexers calls good ∧ body.Lexers calls good
  | .parseTokens lexer grammar _ _ _ =>
    lexer.Lexers calls good ∧ grammar.Lexers calls good ∧ good (lexer.eval calls)
  | .scanChars outer inner _ => outer.Lexers calls good ∧ inner.Lexers calls good
  | .lazy make => ∀ u, (make u).Lexers calls good

def Rules.Lexers (rules : Rules β) (good : Action β (.list .lexeme) → Prop) : Prop :=
  ∀ (depth : Nat) (name : String) (p : Parser β .base), rules.find? name = some p →
    p.Lexers (rules.calls depth) good

theorem Parser.lexers_of_all {good : Action β (.list .lexeme) → Prop} (all : ∀ x, good x)
    (calls : Calls β) (p : Parser β a) : p.Lexers calls good := by
  induction p <;> simp_all [Parser.Lexers]

theorem Parser.Lexers.mono {good good' : Action β (.list .lexeme) → Prop}
    (better : ∀ x, good x → good' x) {calls : Calls β} {p : Parser β a}
    (lexers : p.Lexers calls good) : p.Lexers calls good' := by
  induction p <;> simp_all [Parser.Lexers]

theorem Rules.Lexers.mono {good good' : Action β (.list .lexeme) → Prop}
    (better : ∀ x, good x → good' x) {rules : Rules β} (lexers : rules.Lexers good) :
    rules.Lexers good' :=
  fun depth name p found => (lexers depth name p found).mono better

theorem Parser.eval_regular (rescans : Rescans nests) {calls : Calls β}
    (regularCalls : ∀ name, (calls name).Regular nests) (p : Parser β a)
    (feeds : p.Lexers calls (Feeds nests)) : (p.eval calls).Regular nests := by
  -- Only tokens and ranges that are handed on need more than the parts do: they are read again
  -- in a nested run.
  induction p with
  | ret v => exact regular_of_still fun _ _ _ => rfl
  | reject why => exact regular_reject why
  | raise key => exact regular_of_still fun _ _ _ => rfl
  | abort message => exact regular_of_still fun _ _ _ => rfl
  | fault message => exact regular_of_still fun _ _ _ => rfl
  | getIndex => exact regular_of_still fun _ _ _ => rfl
  | eof l => exact regular_eof l
  | token f => exact regular_token f
  | char k f => exact regular_char k f
  | pattern p l => exact regular_pattern p l
  | matched p ih => exact regular_matched (ih feeds)
  | bind p f ih ihf => exact regular_bind (ih feeds.1) fun v => ihf v (feeds.2 v)
  | atomize p ih => exact regular_atomize (ih feeds)
  | lookahead n p ih => exact regular_lookahead n (ih feeds)
  | stepBy n p ih => exact regular_stepBy n (ih feeds)
  | peek p ih => exact regular_peek (ih feeds)
  | label l p ih => exact regular_label l (ih feeds)
  | isConsumed message p ih => exact regular_isConsumed message (ih feeds)
  | notConsumed message p ih => exact regular_notConsumed message (ih feeds)
  | test check l p ih => exact regular_test check l (ih feeds)
  | ifElse p yes no ih ihYes ihNo =>
    obtain ⟨feedsP, feedsYes, feedsNo⟩ := feeds
    exact regular_ifElse (ih feedsP) (fun v => ihYes v (feedsYes v)) (ihNo feedsNo)
  | tryCatch p handler resume ih ihResume =>
    exact regular_tryCatch handler (ih feeds.1) fun v key => ihResume v key (feeds.2 v key)
  | tryMap f p ih => exact regular_tryMap f (ih feeds)
  | sum n branches ih =>
    refine regular_sum fun x member => ?_
    obtain ⟨i, rfl⟩ := List.mem_ofFn.mp member
    exact ih i (feeds i)
  | favored preference n branches ih =>
    refine regular_favored preference fun x member => ?_
    obtain ⟨i, rfl⟩ := List.mem_ofFn.mp member
    exact ih i (feeds i)
  | loop p min max finish ih => exact regular_loop min max finish (ih feeds)
  | nested opening closing body ihOpening ihClosing ihBody =>
    obtain ⟨feedsOpening, feedsClosing, feedsBody⟩ := feeds
    exact regular_nested (ihOpening feedsOpening) (ihClosing feedsClosing) (ihBody feedsBody)
  | lex scanner reader ih => exact regular_lex reader (ih feeds)
  | parseTokens lexer grammar eofTitle render origin ihLexer ih =>
    obtain ⟨feedsLexer, feedsGrammar, lexes⟩ := feeds
    exact regular_parseTokens (ihLexer feedsLexer) lexes (ih feedsGrammar) eofTitle render origin
  | scanChars outer inner origin ihOuter ih =>
    exact regular_scanChars rescans (ihOuter feeds.1) (ih feeds.2) origin
  | traced p hook ih => exact regular_traced hook (ih feeds)
  | lazy make ih => exact regular_lazy fun u => ih u (feeds u)
  | rule name => exact regularCalls name
  | named name p ih => exact regular_named name (ih feeds)

theorem Rules.calls_regular (rescans : Rescans nests) {rules : Rules β}
    (feeds : rules.Lexers (Feeds nests)) (depth : Nat) (name : String) :
    (rules.calls depth name).Regular nests := by
  induction depth generalizing name with
  | zero => exact regular_of_still fun _ _ _ => rfl
  | succ depth ih =>
    simp only [Rules.calls]
    split
    case h_1 p found => exact Parser.eval_regular rescans ih p (feeds depth name p found)
    case h_2 => exact regular_of_still fun _ _ _ => rfl

end Descent
