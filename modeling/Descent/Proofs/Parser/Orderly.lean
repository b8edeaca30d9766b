import Descent.Parser.Grammar
import Descent.Parser.Hook
import Descent.Proofs.Diagnostic.Record
import Descent.Proofs.Parser.Lexing

set_option autoImplicit false

namespace Descent

variable {β : Type} {a b c : Ty}

inductive Outcome.Orderly (moves : Nat) (good : a.Value β → Prop) (signals : Signal β → Prop)
    (s : State β) : Outcome β a → Prop
  | ok {v : a.Value β} {t : State β} (value : good v) (moved : s.offset + moves ≤ t.offset) :
    Orderly moves good signals s ⟨.ok v, t⟩
  | fail {t : State β} {d : Diagnostic} (told : t.error = some d) :
    Orderly moves good signals s ⟨.error .fail, t⟩
  | signal {sig : Signal β} {t : State β} (allowed : signals sig) :
    Orderly moves good signals s ⟨.error (.signal sig), t⟩
  | user {e : UserError} {t : State β} : Orderly moves good signals s ⟨.error (.user e), t⟩

namespace Outcome.Orderly

variable {moves moves' : Nat} {good : a.Value β → Prop} {good' : b.Value β → Prop}
  {signals : Signal β → Prop} {s s' t : State β}

theorem pass {e : Failure β} (ended : (⟨.error e, t⟩ : Outcome β a).Orderly moves good signals s) :
    (⟨.error e, t⟩ : Outcome β b).Orderly moves' good' signals s' := by
  cases ended with
  | fail told => exact .fail told
  | signal allowed => exact .signal allowed
  | user => exact .user

theorem value {v : a.Value β} (ended : (⟨.ok v, t⟩ : Outcome β a).Orderly moves good signals s) :
    good v ∧ s.offset + moves ≤ t.offset := by
  cases ended with
  | ok value moved => exact ⟨value, moved⟩

theorem after {o : Outcome β a} (ended : o.Orderly moves good signals t)
    (le : s.offset + moves' ≤ t.offset + moves) : o.Orderly moves' good signals s := by
  cases ended with
  | ok value moved => exact .ok value (Nat.le_trans le moved)
  | fail told => exact .fail told
  | signal allowed => exact .signal allowed
  | user => exact .user

end Outcome.Orderly

structure Action.Orderly (env : Env) (first moves : Nat) (good : a.Value β → Prop)
    (signals : Signal β → Prop) (x : Action β a) : Prop where
  regular : x.Regular Env.Hosts
  ends : ∀ n s, s.Placed env (fun _ => True) → first ≤ s.offset →
    (x env n s).Orderly moves good signals s

abbrev Action.Calm (env : Env) (first moves : Nat) (x : Action β a) : Prop :=
  x.Orderly env first moves (fun _ => True) fun _ => False

namespace Action

variable {env : Env} {w : Window} {tokens : TokenRun} {first later moves moves' : Nat}
  {good : a.Value β → Prop} {good' : b.Value β → Prop} {signals signals' : Signal β → Prop}
  {x : Action β a} {s : State β}

theorem Orderly.apply (orderly : x.Orderly env first moves good signals) (n : Nat)
    (placed : s.Placed env fun _ => True) (le : first ≤ s.offset) :
    ∃ r t, x env n s = ⟨r, t⟩ ∧ s.Leads env (fun _ => True) t ∧
      (⟨r, t⟩ : Outcome β a).Orderly moves good signals s :=
  ⟨_, _, rfl, (orderly.regular env n s).leads (env.admits_true s.offset) placed,
    orderly.ends n s placed le⟩

theorem Orderly.run (orderly : x.Orderly env first moves good signals)
    (placed : s.Placed env fun _ => True) (le : first ≤ s.offset) :
    ∃ r t, x.run env s = ⟨r, t⟩ ∧ s.Leads env (fun _ => True) t ∧
      (⟨r, t⟩ : Outcome β a).Orderly moves good signals s :=
  orderly.apply defaultLookahead placed le

theorem Orderly.mono (orderly : x.Orderly env first moves good signals) {good' : a.Value β → Prop}
    (le : first ≤ later) (fewer : moves' ≤ moves) (weaker : ∀ v, good v → good' v)
    (more : ∀ sig, signals sig → signals' sig) : x.Orderly env later moves' good' signals' := by
  refine ⟨orderly.regular, fun n s placed here => ?_⟩
  obtain ⟨r, t, ran, -, ended⟩ := orderly.apply n placed (Nat.le_trans le here)
  rw [ran]
  cases ended with
  | ok value moved => exact .ok (weaker _ value) (by omega)
  | fail told => exact .fail told
  | signal allowed => exact .signal (more _ allowed)
  | user => exact .user

theorem Orderly.onward (orderly : x.Orderly env first moves good signals) (le : first ≤ later) :
    x.Orderly env later moves good signals :=
  orderly.mono le (Nat.le_refl _) (fun _ value => value) fun _ allowed => allowed

theorem Orderly.still (orderly : x.Orderly env first moves good signals) :
    x.Orderly env first 0 good signals :=
  orderly.mono (Nat.le_refl _) (Nat.zero_le _) (fun _ value => value) fun _ allowed => allowed

theorem orderly_ret {v : a.Value β} (value : good v) :
    (ret v : Action β a).Orderly env first 0 good signals :=
  ⟨regular_of_still fun _ _ _ => rfl, fun _ _ _ _ => .ok value (Nat.le_refl _)⟩

theorem reject_tells (env : Env) (s : State β) (why : Rejection) (speaks : why ≠ .silent) :
    ∃ d, (s.reject env why).error = some d := by
  cases why with
  | silent => exact absurd rfl speaks
  | _ => exact ⟨_, rfl⟩

theorem orderly_reject {why : Rejection} (speaks : why ≠ .silent) :
    (reject why : Action β a).Orderly env first moves good signals := by
  refine ⟨regular_reject why, fun n s _ _ => ?_⟩
  obtain ⟨d, told⟩ := reject_tells env s why speaks
  exact .fail told

theorem orderly_raise {key : Key} (allowed : signals ⟨key, none⟩) :
    (raise key : Action β a).Orderly env first moves good signals :=
  ⟨regular_of_still fun _ _ _ => rfl, fun _ _ _ _ => .signal allowed⟩

theorem orderly_eof (l : String) :
    (eof l : Action β .unit).Orderly env first 0 (fun _ => True) signals := by
  refine ⟨regular_eof l, fun n s _ _ => ?_⟩
  unfold eof
  split
  · exact .ok trivial (Nat.le_refl _)
  · obtain ⟨d, told⟩ := reject_tells env s (.instead l) (by rintro ⟨⟩)
    exact .fail told

theorem orderly_token {f : Lexeme → Option (a.Value β)} (input : env.input = .tokens tokens)
    (values : ∀ l v, f l = some v → good v) :
    (token f).Orderly env first 1 good signals := by
  refine ⟨regular_token f, fun n s _ _ => ?_⟩
  have offset : (s.next env).offset = s.offset + 1 := by
    simp [State.next, State.offset, input]
  simp only [token, Env.lexeme?, input]
  split
  case h_1 v accepted =>
    obtain ⟨l, -, value⟩ := Option.bind_eq_some_iff.1 accepted
    exact .ok (values l v value) (Nat.le_of_eq offset.symm)
  case h_2 =>
    obtain ⟨d, told⟩ := reject_tells env s .encountered (by rintro ⟨⟩)
    exact .fail told

theorem orderly_pattern (p : Pattern) (l : String) (input : env.input = .chars w) :
    (pattern p l : Action β .unit).Orderly env first 0 (fun _ => True) signals := by
  refine ⟨regular_pattern p l, fun n s _ _ => ?_⟩
  simp only [pattern, Env.window, input]
  split
  · exact .ok trivial (Nat.le_add_right _ _)
  · obtain ⟨d, told⟩ := reject_tells env s (.instead l) (by rintro ⟨⟩)
    exact .fail told

theorem orderly_bind {f : a.Value β → Action β b}
    (orderly : x.Orderly env first moves good signals) (regular : ∀ v, (f v).Regular Env.Hosts)
    (next : ∀ v, good v → (f v).Orderly env (first + moves) moves' good' signals) :
    (bind x f).Orderly env first (moves + moves') good' signals := by
  refine ⟨regular_bind orderly.regular regular, fun n s placed le => ?_⟩
  obtain ⟨r, t, ran, leads, ended⟩ := orderly.run placed le
  simp only [bind, andThen, ran]
  cases r with
  | error e => exact ended.pass
  | ok v =>
    obtain ⟨value, moved⟩ := ended.value
    exact ((next v value).ends _ t leads.placed (by omega)).after (by omega)

theorem orderly_label (l : String) (orderly : x.Orderly env first moves good signals) :
    (label l x).Orderly env first moves good signals := by
  refine ⟨regular_label l orderly.regular, fun n s placed le => ?_⟩
  obtain ⟨r, t, ran, -, ended⟩ := orderly.apply n placed le
  simp only [label, orElse, ran]
  cases ended with
  | fail told =>
    dsimp only
    split
    · exact .fail told
    · simp only [relabelError, told]
      exact .fail rfl
  | ok value moved => exact .ok value moved
  | signal allowed => exact .signal allowed
  | user => exact .user

theorem orderly_named (name : String) (orderly : x.Orderly env first moves good signals) :
    (named name x).Orderly env first moves good signals := by
  refine ⟨regular_named name orderly.regular, fun n s placed le => ?_⟩
  obtain ⟨r, t, ran, -, ended⟩ := orderly.apply n placed le
  simp only [named, ran]
  cases ended with
  | ok value moved => exact .ok value moved
  | fail told => exact .fail told
  | signal allowed => exact .signal allowed
  | user => exact .user

theorem orderly_traced (hook : TraceEvent β a → List (Note β))
    (orderly : x.Orderly env first moves good signals) :
    (traced x hook).Orderly env first moves good signals := by
  refine ⟨regular_traced hook orderly.regular, fun n s placed le => ?_⟩
  obtain ⟨r, t, ran, -, ended⟩ := orderly.apply n placed le
  simp only [traced, ran]
  cases r with
  | error e =>
    cases ended with
    | fail told => exact .fail told
    | signal allowed => exact .signal allowed
    | user => exact .user
  | ok v => exact .ok ended.value.1 ended.value.2

theorem orderly_peek (orderly : x.Orderly env first moves good signals) :
    (peek x).Orderly env first 0 good signals := by
  refine ⟨regular_peek orderly.regular, fun n s placed le => ?_⟩
  obtain ⟨r, t, ran, -, ended⟩ := orderly.run placed le
  simp only [peek, ran]
  cases ended with
  | ok value moved => exact .ok value (Nat.le_refl _)
  | fail told => exact .fail told
  | signal allowed => exact .signal allowed
  | user => exact .user

theorem orderly_tryMap {f : a.Value β → Except UserError (b.Value β)}
    (orderly : x.Orderly env first moves good signals)
    (values : ∀ v w, f v = .ok w → good' w) :
    (tryMap f x).Orderly env first moves good' signals := by
  refine ⟨regular_tryMap f orderly.regular, fun n s placed le => ?_⟩
  obtain ⟨r, t, ran, -, ended⟩ := orderly.run placed le
  simp only [tryMap, andThen, ran]
  cases r with
  | error e => exact ended.pass
  | ok v =>
    dsimp only
    split
    case h_1 w made => exact .ok (values v w made) ended.value.2
    case h_2 => exact .user

theorem orderly_ifElse {yes : a.Value β → Action β b} {no : Action β b}
    (orderly : x.Orderly env first moves good signals)
    (orderlyYes : ∀ v, (yes v).Orderly env first moves' good' signals)
    (orderlyNo : no.Orderly env first moves' good' signals) :
    (ifElse x yes no).Orderly env first moves' good' signals := by
  refine ⟨regular_ifElse orderly.regular (fun v => (orderlyYes v).regular) orderlyNo.regular,
    fun n s placed le => ?_⟩
  obtain ⟨r, t, ran, leads, ended⟩ := orderly.run placed le
  simp only [ifElse, ran]
  rcases r with (_ | _ | _ | _ | _) | v
  case ok =>
    have here : first ≤ t.offset := Nat.le_trans le leads.offset
    exact ((orderlyYes v).ends _ t leads.placed here).after
      (Nat.add_le_add_right leads.offset moves')
  case error.fail =>
    dsimp only
    split
    · exact ended.pass
    · have clear : ((t.restore s.cursor).setError none).Placed env fun _ => True :=
        (leads.placed.restore placed.within).setError (by rintro _ ⟨⟩)
      obtain ⟨r, u, ran, -, ended'⟩ := orderlyNo.run clear le
      rw [ran]
      cases ended' with
      | ok value moved => exact .ok value moved
      | fail told =>
        cases ended with
        | fail told' => exact .fail (by simp only [State.mergeError, told, told']; rfl)
      | signal allowed => exact .signal allowed
      | user => exact .user
  all_goals exact ended.pass

theorem sumFrom_orderly (n : Nat) {xs : List (Action β a)}
    (orderly : ∀ x ∈ xs, x.Orderly env first moves good signals) {s : State β}
    (placed : s.Placed env fun _ => True) (le : first ≤ s.offset)
    (speaks : xs ≠ [] ∨ ∃ d, s.error = some d) :
    (sumFrom env n s.cursor xs s).Orderly moves good signals s := by
  induction xs generalizing s with
  | nil =>
    obtain ⟨d, told⟩ := speaks.resolve_left (· rfl)
    exact .fail told
  | cons x xs ih =>
    obtain ⟨r, t, ran, leads, ended⟩ := (orderly x List.mem_cons_self).run placed le
    simp only [sumFrom, orElse, ran]
    cases ended with
    | ok value moved => exact .ok value moved
    | signal allowed => exact .signal allowed
    | user => exact .user
    | fail told =>
      dsimp only
      split
      · exact .fail told
      · have again := (leads.placed.mergeError placed.allowed).restore placed.within
        have begins : first ≤ ((t.mergeError s.error).restore s.cursor).offset := le
        have told' : ∃ d, ((t.mergeError s.error).restore s.cursor).error = some d := by
          cases before : s.error with
          | none => exact ⟨_, told⟩
          | some e => exact ⟨_, by simp only [State.mergeError, State.restore, told]; rfl⟩
        exact (ih (fun y member => orderly y (List.mem_cons_of_mem x member)) again begins
          (.inr told')).after (Nat.le_refl _)

theorem orderly_sum {xs : List (Action β a)} (some : xs ≠ [])
    (orderly : ∀ x ∈ xs, x.Orderly env first moves good signals) :
    (sum xs).Orderly env first moves good signals :=
  ⟨regular_sum fun x member => (orderly x member).regular,
    fun n _ placed le => sumFrom_orderly n orderly placed le (.inl some)⟩

theorem loopFrom_orderly {finish : List (a.Value β) → b.Value β} {bound : Nat}
    (orderly : x.Orderly env first moves good signals)
    (finishes : ∀ vs, vs.length ≤ bound → (∀ v ∈ vs, good v) → good' (finish vs))
    (raises : ∀ sig vs, signals sig → vs.length ≤ bound → (∀ v ∈ vs, good v) →
      signals' ⟨sig.key, some ⟨b, finish vs⟩⟩)
    (fuel count : Nat) (values : List (a.Value β)) {s : State β} (sofar : ∀ v ∈ values, good v)
    (placed : s.Placed env fun _ => True) (le : first ≤ s.offset)
    (enough : env.stop - s.offset < fuel) (few : values.length + fuel ≤ bound) :
    (loopFrom x 0 none finish env fuel count values s).Orderly 0 good' signals' s := by
  -- Each round that is not the last one moves, so there are enough of them.
  induction fuel generalizing count values s with
  | zero => omega
  | succ fuel ih =>
    have short : values.reverse.length ≤ bound := by
      rw [List.length_reverse]
      omega
    have all : ∀ v ∈ values.reverse, good v := fun v member => sofar v (List.mem_reverse.1 member)
    obtain ⟨r, t, ran, leads, ended⟩ := orderly.run placed le
    simp only [loopFrom, ran, reduceCtorEq, if_false]
    rcases r with (_ | sig | _ | _ | _) | v
    case ok =>
      dsimp only
      split
      case isTrue => exact .ok (finishes _ short all) leads.offset
      case isFalse going =>
        have moved : s.offset < t.offset := by
          have := leads.offset
          simp only [Nat.zero_le, decide_true, Bool.true_and, Bool.not_eq_true', Cursor.movedFrom,
            bne_eq_false_iff_eq] at going
          simp only [State.offset] at this ⊢
          omega
        have inside := leads.placed.within.le_stop
        have fewer : (v :: values).length + fuel ≤ bound := by
          rw [List.length_cons]
          omega
        have more : ∀ w ∈ v :: values, good w := List.forall_mem_cons.2 ⟨ended.value.1, sofar⟩
        have rest := ih (count + 1) (v :: values) more leads.placed
          (Nat.le_trans le leads.offset) (by omega) fewer
        exact rest.after (Nat.add_le_add_right leads.offset 0)
    case error.fail =>
      dsimp only
      split
      · cases ended with
        | fail told => exact .fail told
      · exact .ok (finishes _ short all) (Nat.le_refl s.offset)
    case error.signal =>
      cases ended with
      | signal allowed => exact .signal (raises sig _ allowed short all)
    case error.user => exact .user
    all_goals cases ended

theorem orderly_loop {finish : List (a.Value β) → b.Value β}
    (orderly : x.Orderly env first moves good signals)
    (finishes : ∀ vs, vs.length ≤ env.stop + 2 → (∀ v ∈ vs, good v) → good' (finish vs))
    (raises : ∀ sig vs, signals sig → vs.length ≤ env.stop + 2 → (∀ v ∈ vs, good v) →
      signals' ⟨sig.key, some ⟨b, finish vs⟩⟩) :
    (loop x 0 none finish).Orderly env first 0 good' signals' := by
  refine ⟨regular_loop 0 none finish orderly.regular, fun n s placed le => ?_⟩
  apply loopFrom_orderly orderly finishes raises _ 0 [] (List.forall_mem_nil _) placed le
  · omega
  · simp only [List.length_nil]
    omega

def EndsList (good : a.Value β → Prop) (sig : Signal β) : Prop :=
  sig.key.id = .listEnd ∧ ∃ v, sig.collected = some ⟨a, v⟩ ∧ good v

theorem orderly_endOfList {resume : Option (a.Value β) → Key → Action β a}
    (regular : ∀ v key, (resume v key).Regular Env.Hosts)
    (orderly : x.Orderly env first moves good (EndsList good)) :
    (tryCatch x Parser.endOfList resume).Orderly env first 0 good signals := by
  refine ⟨regular_tryCatch _ orderly.regular regular, fun n s placed le => ?_⟩
  obtain ⟨r, t, ran, leads, ended⟩ := orderly.run placed le
  simp only [tryCatch, ran]
  cases ended with
  | ok value moved => exact .ok value (by omega)
  | fail told => exact .fail told
  | user => exact .user
  | @signal sig _ allowed =>
    obtain ⟨key, v, collected, value⟩ := allowed
    simp only [collected, Option.bind_some, Typed.at?_self, Parser.endOfList, if_pos key]
    exact .ok value leads.offset

def Accepting (reader : TokenReader) : Prop :=
  ∀ source first length, (Text.slice? source first (first + length)).isSome →
    ∃ tok, reader source first length = .ok tok

theorem accepting_value (tok : Token) : Accepting (TokenReader.value tok) :=
  fun _ _ _ _ => ⟨tok, rfl⟩

theorem accepting_word (kind : WordKind) : Accepting (TokenReader.word kind) := by
  intro source first length found
  obtain ⟨text, slice⟩ := Option.isSome_iff_exists.1 found
  exact ⟨_, by simp only [TokenReader.word, TokenReader.ofText, TokenReader.slice, slice]; rfl⟩

theorem orderly_lex {reader : TokenReader} (accepting : Accepting reader)
    (orderly : x.Orderly env first moves good signals) (input : env.input = .chars w) :
    (lex x reader).Orderly env first 0 (Ty.InPlace env first .lexeme) signals := by
  refine ⟨regular_lex reader orderly.regular, fun n s placed le => ?_⟩
  obtain ⟨r, t, ran, leads, ended⟩ := orderly.run placed le
  simp only [lex, andThen, ran]
  cases r with
  | error e => exact ended.pass
  | ok v =>
    obtain ⟨-, begins⟩ := (Env.within_chars input).1 placed.within
    obtain ⟨-, stops⟩ := (Env.within_chars input).1 leads.placed.within
    have length : s.offset + (t.offset - s.offset) = t.offset := Nat.add_sub_cancel' leads.offset
    have slice : (Text.slice? w.source s.offset (s.offset + (t.offset - s.offset))).isSome := by
      rw [length]
      exact Text.slice?_isSome_iff.2 ⟨leads.offset, begins, stops⟩
    obtain ⟨tok, read⟩ := accepting w.source s.offset _ slice
    simp only [Env.window, input, read]
    exact .ok ⟨le, placed.within⟩ leads.offset

theorem orderly_parseTokens {lexer : Action β (.list .lexeme)} {lexed : List Lexeme → Prop}
    (orderlyLexer : lexer.Orderly env first moves' lexed signals) (inPlace : lexer.LexesInPlace)
    (regular : x.Regular Env.Hosts) (input : env.input = .chars w) (eofTitle : String)
    (render : Token → String) (origin : String)
    (orderly : ∀ lexemes stop, lexed lexemes → x.Orderly
      (.ofTokens ⟨w.source, lexemes.toArray, stop, eofTitle, render⟩ origin env.positions) 0 moves
        good signals) :
    (parseTokens lexer x eofTitle render origin).Orderly env first 0 good signals := by
  refine ⟨regular_parseTokens orderlyLexer.regular (feeds_of_lexesInPlace lexer inPlace) regular
    eofTitle render origin, fun n s placed le => ?_⟩
  obtain ⟨r, t, ran, leads, ended⟩ := orderlyLexer.run placed le
  simp only [parseTokens, andThen, ran]
  cases r with
  | error e => exact ended.pass
  | ok lexemes =>
    simp only [Env.window, input]
    obtain ⟨value, -⟩ := ended.value
    have begins : (t.enter (.ofTokens ⟨w.source, lexemes.toArray, env.index t.offset, eofTitle,
        render⟩ origin env.positions) 0).Placed
          (.ofTokens ⟨w.source, lexemes.toArray, env.index t.offset, eofTitle, render⟩ origin
            env.positions) fun _ => True :=
      ⟨Nat.zero_le _, fun _ _ => trivial, State.truthful_of_blank rfl⟩
    obtain ⟨r, u, ran, -, ended⟩ :=
      (orderly lexemes (env.index t.offset) value).run begins (Nat.zero_le _)
    rw [inside_of_run ran]
    cases ended with
    | ok value _ => exact .ok value leads.offset
    | fail told => exact .fail told
    | signal allowed => exact .signal allowed
    | user => exact .user

end Action

-- An alternation around a parser takes its branches for its own, so what is known of a parser is
-- said of them.
def Parser.Orderly (calls : Calls β) (env : Env) (first moves : Nat) (good : a.Value β → Prop)
    (signals : Signal β → Prop) (p : Parser β a) : Prop :=
  p.actions calls ≠ [] ∧ ∀ x ∈ p.actions calls, x.Orderly env first moves good signals

abbrev Parser.Calm (calls : Calls β) (env : Env) (first moves : Nat) (p : Parser β a) : Prop :=
  p.Orderly calls env first moves (fun _ => True) fun _ => False

namespace Parser

open Descent.Action

variable {calls : Calls β} {env : Env} {first moves moves' : Nat} {good : a.Value β → Prop}
  {good' : b.Value β → Prop} {signals : Signal β → Prop} {p : Parser β a} {q : Parser β b}

theorem Orderly.eval (orderly : p.Orderly calls env first moves good signals) :
    (p.eval calls).Orderly env first moves good signals := by
  obtain ⟨some, each⟩ := orderly
  unfold actions branches at some each
  split at each
  case h_1 n branches =>
    have listed : (List.ofFn branches).map (Parser.eval calls) =
        List.ofFn fun i => (branches i).eval calls := List.map_ofFn
    rw [listed] at some each
    exact orderly_sum some each
  case h_2 => exact each _ (by simp)

theorem Orderly.of_eval (orderly : (p.eval calls).Orderly env first moves good signals)
    (single : p.branches = [p]) : p.Orderly calls env first moves good signals := by
  unfold Orderly actions
  rw [single]
  exact ⟨List.cons_ne_nil _ _, fun x member => by rwa [List.mem_singleton.1 member]⟩

theorem orderly_plus {ps : List (Parser β a)} (some : ps ≠ [])
    (orderly : ∀ p ∈ ps, p.Orderly calls env first moves good signals) :
    (plus ps).Orderly calls env first moves good signals := by
  rw [Orderly, actions_plus]
  constructor
  · intro none
    obtain ⟨p, member⟩ := List.exists_mem_of_ne_nil ps some
    exact (orderly p member).1 (List.flatMap_eq_nil_iff.1 none p member)
  · intro x member
    obtain ⟨p, isPart, isBranch⟩ := List.mem_flatMap.1 member
    exact (orderly p isPart).2 x isBranch

theorem orderly_orElse {p q : Parser β a} (orderly : p.Orderly calls env first moves good signals)
    (orderly' : q.Orderly calls env first moves good signals) :
    (orElse p q).Orderly calls env first moves good signals :=
  orderly_plus (List.cons_ne_nil _ _) (by simp [orderly, orderly'])

theorem orderly_both {f : a.Value β → b.Value β → c.Value β}
    (orderly : (p.eval calls).Orderly env first moves (fun _ => True) signals)
    (orderly' : (q.eval calls).Orderly env (first + moves) moves' (fun _ => True) signals) :
    ((both f p q).eval calls).Orderly env first moves (fun _ => True) signals := by
  have value : ∀ v w, (Action.ret (f v w) : Action β c).Orderly env
      (first + moves + moves') 0 (fun _ => True) signals := fun v w => orderly_ret trivial
  have second : ∀ v, (Action.bind (q.eval calls) fun w => Action.ret (f v w)).Orderly env
      (first + moves) (moves' + 0) (fun _ => True) signals :=
    fun v => orderly_bind orderly' (fun w => (value v w).regular) fun w _ => value v w
  exact (orderly_bind orderly (fun v => (second v).regular) fun v _ => second v).mono
    (Nat.le_refl _) (by omega) (fun _ _ => trivial) fun _ allowed => allowed

theorem orderly_seqRight (orderly : (p.eval calls).Orderly env first moves (fun _ => True) signals)
    (orderly' : (q.eval calls).Orderly env (first + moves) moves' good' signals) :
    ((seqRight p q).eval calls).Orderly env first (moves + moves') good' signals :=
  orderly_bind orderly (fun _ => orderly'.regular) fun _ _ => orderly'

theorem orderly_seqLeft (orderly : (p.eval calls).Orderly env first moves good signals)
    (orderly' : (q.eval calls).Orderly env (first + moves) moves' good' signals) :
    ((seqLeft p q).eval calls).Orderly env first moves good signals := by
  have second : ∀ v, good v → (Action.bind (q.eval calls) fun _ => Action.ret v).Orderly env
      (first + moves) (moves' + 0) good signals :=
    fun v value => orderly_bind orderly' (fun _ => regular_of_still fun _ _ _ => rfl)
      fun _ _ => orderly_ret value
  have regular : ∀ v, (Action.bind (q.eval calls) fun _ => (Action.ret v : Action β a)).Regular
      Env.Hosts :=
    fun v => regular_bind orderly'.regular fun _ => regular_of_still fun _ _ _ => rfl
  exact (orderly_bind orderly regular second).mono (Nat.le_refl _) (by omega) (fun _ value => value)
    fun _ allowed => allowed

theorem orderly_between {opening : Parser β b} {closing : Parser β c}
    (opens : (opening.eval calls).Orderly env first moves (fun _ => True) signals)
    (orderly : (p.eval calls).Orderly env (first + moves) moves' good signals)
    (closes : (closing.eval calls).Orderly env (first + moves) 0 (fun _ => True) signals) :
    ((between opening closing p).eval calls).Orderly env first (moves + moves') good signals :=
  orderly_seqRight opens (orderly_seqLeft orderly (closes.onward (Nat.le_add_right _ _)))

theorem orderly_optional (orderly : (p.eval calls).Orderly env first moves good signals) :
    ((optional p).eval calls).Orderly env first 0 (fun _ => True) signals := by
  have found : ∀ v : a.Value β, (Action.ret (a := .option a) (some v) : Action β _).Orderly env
      (first + moves) 0 (fun _ => True) signals := fun v => orderly_ret trivial
  rw [eval_optional]
  refine orderly_sum (List.cons_ne_nil _ _) fun x member => ?_
  simp only [List.mem_cons, List.not_mem_nil, or_false] at member
  rcases member with rfl | rfl
  · exact (orderly_bind orderly (fun v => (found v).regular) fun v _ => found v).mono
      (Nat.le_refl _) (Nat.zero_le _) (fun _ _ => trivial) fun _ allowed => allowed
  · exact orderly_ret trivial

theorem orderly_many (orderly : (p.eval calls).Calm env first moves) :
    ((many p).eval calls).Calm env first 0 :=
  orderly_loop orderly (fun _ _ _ => trivial) fun _ _ raised => raised.elim

def Few (n : Nat) (good : a.Value β → Prop) (vs : (Ty.list a).Value β) : Prop :=
  List.length vs ≤ n ∧ ∀ v ∈ (vs : List (a.Value β)), good v

theorem orderly_sepEndBy {sep : Parser β c}
    (orderlySep : (sep.eval calls).Calm env first 0)
    (orderly : p.Orderly calls env first 0 good fun _ => False) :
    (sepEndBy sep p).Orderly calls env first 0 (Few (env.stop + 3) good) fun _ => False := by
  -- After a separator the list ends itself by a signal, to which the loop adds what it has read.
  have element {signals : Signal β → Prop} : p.Orderly calls env first 0 good signals :=
    ⟨orderly.1, fun x member => (orderly.2 x member).mono (Nat.le_refl _) (Nat.le_refl _)
      (fun _ value => value) fun _ raised => raised.elim⟩
  have ends : (raise .listEnd : Parser β a).Orderly calls env first 0 good
      fun sig => sig.key.id = .listEnd := .of_eval (orderly_raise rfl) rfl
  have separated := orderlySep.mono (Nat.le_refl _) (Nat.le_refl _) (fun _ _ => trivial)
    fun sig (raised : False) => (raised.elim : sig.key.id = .listEnd)
  have rest : ((seqRight sep (orElse p (raise .listEnd))).eval calls).Orderly env first 0
      good fun sig => sig.key.id = .listEnd :=
    orderly_seqRight separated (orderly_orElse element ends).eval
  have list : ((listWith (b := .list a) (fun vs => vs) p
      (seqRight sep (orElse p (raise .listEnd)))).eval calls).Orderly env first 0
        (Few (env.stop + 3) good) (EndsList (Few (env.stop + 3) good)) := by
    have grown (v : a.Value β) (value : good v) (vs : List (a.Value β))
        (few : vs.length ≤ env.stop + 2) (all : ∀ v ∈ vs, good v) :
        Few (env.stop + 3) good (v :: vs) :=
      ⟨Nat.succ_le_succ few, List.forall_mem_cons.2 ⟨value, all⟩⟩
    have elements (v : a.Value β) (value : good v) : (Action.loop
        ((seqRight sep (orElse p (raise .listEnd))).eval calls) 0 none
          fun vs => (v :: vs : (Ty.list a).Value β)).Orderly env (first + 0) 0
            (Few (env.stop + 3) good) (EndsList (Few (env.stop + 3) good)) :=
      orderly_loop rest (grown v value) fun sig vs ends few all =>
        ⟨ends, v :: vs, rfl, grown v value vs few all⟩
    exact orderly_bind element.eval (fun v => regular_loop _ _ _ rest.regular) elements
  have nonempty : (sepEndBy1 sep p).Orderly calls env first 0 (Few (env.stop + 3) good)
      fun _ => False :=
    .of_eval (orderly_endOfList (fun _ _ => regular_reject .silent) list) rfl
  exact orderly_orElse nonempty (.of_eval (orderly_ret ⟨Nat.zero_le _, List.forall_mem_nil _⟩) rfl)

theorem orderly_printError {name : String} {n : Nat}
    (orderly : (p.eval calls).Orderly env first moves good signals) (unnamed : p.name? = none) :
    ((printError name n p).eval calls).Orderly env first moves good signals := by
  simp only [printError, onError, trace, unnamed]
  exact orderly_traced _ orderly

end Parser

theorem Grammar.parseText_ends_well {g : Grammar β a} {good : a.Value β → Prop} {moves : Nat}
    (source : List Char) (origin : String)
    (orderly : let env := Env.ofText source origin (PositionMap.ofSource source)
      (g.start.eval (g.rules.calls (g.rules.depth env))).Orderly env 0 moves good fun _ => False) :
    (∃ v, (g.parseText source origin).result = .ok v ∧ good v) ∨
    ∃ e, (g.parseText source origin).result = .error e ∧
      (e.kind = .user ∨ e.kind = .mismatch ∧
        ∃ d, e.detail = some d ∧ Text.IsBoundary source d.index) := by
  let env := Env.ofText source origin (PositionMap.ofSource source)
  have begins {P : Nat → Prop} : (env.stateAt .start : State β).Placed env P :=
    ⟨⟨Nat.zero_le _, .zero⟩, by rintro _ ⟨⟩, State.truthful_of_blank rfl⟩
  have marks := (orderly.regular env Action.defaultLookahead _).leads (env.admits_marks 0) begins
  obtain ⟨r, t, ran, -, ended⟩ := orderly.run begins (Nat.zero_le _)
  have result : (g.parseText source origin).result = r.mapError fun f => f.exception env t := by
    unfold parseText parse apply Parser.apply Outcome.toParse
    rw [ran]
  rw [Action.run] at ran
  rw [ran] at marks
  cases ended with
  | ok value => exact .inl ⟨_, result, value⟩
  | signal raised => exact raised.elim
  | user => exact .inr ⟨_, result, .inl rfl⟩
  | @fail _ d told =>
    refine .inr ⟨_, result, .inr ⟨rfl, d.detail, ?_, ?_⟩⟩
    · simp [Failure.exception, Exception.make, told]
    · obtain ⟨k, -, within, index⟩ := marks.placed.allowed d told
      have here : d.index = k := index.symm
      rw [Diagnostic.index_detail, here]
      exact within.2

end Descent
