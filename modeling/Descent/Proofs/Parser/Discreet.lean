import Descent.Proofs.Parser.Induction
import Descent.Proofs.Parser.Span

set_option autoImplicit false

namespace Descent

variable {β : Type} {a b : Ty}

namespace Env

def Advances (env : Env) (lo hi : Nat) : Prop := lo ≤ hi ∧ hi ≤ max lo env.stop

variable {env : Env} {lo k hi : Nat}

theorem Advances.refl (env : Env) (lo : Nat) : env.Advances lo lo :=
  ⟨Nat.le_refl lo, Nat.le_max_left lo env.stop⟩

theorem Advances.trans (first : env.Advances lo k) (second : env.Advances k hi) :
    env.Advances lo hi := by
  obtain ⟨first, inside⟩ := first
  obtain ⟨second, inside'⟩ := second
  constructor <;> omega

theorem Within.advances (within : env.Within hi) (le : lo ≤ hi) : env.Advances lo hi :=
  ⟨le, Nat.le_trans within.le_stop (Nat.le_max_right lo env.stop)⟩

end Env

def Outcome.Onward (keys : Key → Prop) (env : Env) (lo : Nat) (o : Outcome β a) : Prop :=
  o.Spans (fun _ hi => env.Advances lo hi) fun sig hi => env.Advances lo hi ∧ keys sig.key

def Action.Onward (keys : Key → Prop) (x : Action β a) : Prop :=
  ∀ env n s, (x env n s).Onward keys env s.offset

variable {keys : Key → Prop}

namespace Outcome.Onward

variable {o : Outcome β a} {env : Env} {lo k : Nat}

theorem later (onward : o.Onward keys env k) (before : env.Advances lo k) :
    o.Onward keys env lo := by
  rcases o with ⟨(_ | _ | _ | _ | _) | v, t⟩
  case ok => exact before.trans onward
  case error.signal => exact ⟨before.trans onward.1, onward.2⟩
  all_goals trivial

theorem andThen (onward : o.Onward keys env lo) {f : a.Value β → State β → Outcome β b}
    (next : ∀ v t, env.Advances lo t.offset → (f v t).Onward keys env lo) :
    (Action.andThen o f).Onward keys env lo := by
  rcases o with ⟨(_ | _ | _ | _ | _) | v, t⟩
  case ok => exact next v t onward
  case error.signal => exact onward
  all_goals trivial

end Outcome.Onward

namespace Action

open Outcome

variable {x : Action β a} {env : Env} {s : State β} {n : Nat}

theorem Onward.spans (onward : x.Onward keys) (env : Env) :
    x.Spans env (fun lo _ hi => env.Advances lo hi)
      fun lo sig hi => env.Advances lo hi ∧ keys sig.key :=
  fun s => onward env defaultLookahead s

theorem eof_onward (l : String) : (eof l : Action β .unit).Onward keys := by
  intro env n s
  unfold eof
  split
  · exact .refl env s.offset
  · trivial

theorem next_advances (within : env.Within (s.next env).offset) :
    env.Advances s.offset (s.next env).offset :=
  within.advances (Nat.le_add_right _ _)

theorem token_onward (f : Lexeme → Option (a.Value β)) : (token f).Onward keys := by
  intro env n s
  unfold token
  split
  · trivial
  · rename_i l found
    split
    · rename_i v accepted
      obtain ⟨l, rfl, -⟩ := Option.bind_eq_some_iff.1 accepted
      exact next_advances (Env.within_next_of_lexeme? found)
    · trivial

theorem char_onward (k : CharClass) (f : Char → a.Value β) : (char k f).Onward keys := by
  intro env n s
  unfold char
  split
  · trivial
  · rename_i here found
    split
    · rename_i c accepted
      obtain rfl : here = some c := (Option.filter_eq_some_iff.1 accepted).1
      exact next_advances (Env.within_next_of_char? found)
    · trivial

theorem pattern_onward (p : Pattern) (l : String) :
    (pattern p l : Action β .unit).Onward keys := by
  intro env n s
  unfold pattern
  split
  · trivial
  · rename_i w window
    split
    · rename_i k matched
      exact (Env.within_skip_of_run window matched).advances (Nat.le_add_right _ _)
    · trivial

section

variable (onward : x.Onward keys)

include onward

theorem matched_onward : (matched x).Onward keys := by
  intro env n s
  refine (onward env _ s).andThen fun v t le => ?_
  split
  · trivial
  · exact le

theorem bind_onward {f : a.Value β → Action β b} (next : ∀ v, (f v).Onward keys) :
    (bind x f).Onward keys := fun env _ s =>
  (onward env _ s).andThen fun v t le => (next v env _ t).later le

theorem atomize_onward : (atomize x).Onward keys := by
  intro env n s
  have first := onward env defaultLookahead s
  unfold atomize run
  generalize x env defaultLookahead s = o at first ⊢
  rcases o with ⟨(_ | _ | _ | _ | _) | v, t⟩
  case ok => exact first
  case error.signal => exact ⟨Env.Advances.refl env s.offset, first.2⟩
  all_goals trivial

theorem stepBy_onward (m : Nat) : (stepBy m x).Onward keys := fun env _ s =>
  (onward env _ s).andThen fun _ _ le => le

theorem peek_onward : (peek x).Onward keys := by
  intro env n s
  have first := onward env defaultLookahead s
  unfold peek run
  generalize x env defaultLookahead s = o at first ⊢
  rcases o with ⟨(_ | _ | _ | _ | _) | v, t⟩
  case ok => exact Env.Advances.refl env s.offset
  case error.signal => exact ⟨Env.Advances.refl env s.offset, first.2⟩
  all_goals trivial

theorem label_onward (l : String) : (label l x).Onward keys := by
  intro env n s
  have first := onward env n s
  unfold label
  generalize x env n s = o at first ⊢
  rcases o with ⟨(_ | _ | _ | _ | _) | v, t⟩
  case ok => exact first
  case error.signal => exact first
  case error.fail =>
    dsimp only [orElse]
    split <;> trivial
  all_goals trivial

theorem isConsumed_onward (message : String) : (isConsumed message x).Onward keys := by
  intro env n s
  refine (onward env _ s).andThen fun v t le => ?_
  split
  · exact le
  · trivial

theorem notConsumed_onward (message : String) : (notConsumed message x).Onward keys := by
  intro env n s
  refine (onward env _ s).andThen fun v t le => ?_
  split
  · trivial
  · exact le

theorem test_onward (check : a.Value β → Bool) (l : Option String) :
    (test check l x).Onward keys := by
  intro env n s
  refine (onward env _ s).andThen fun v t le => ?_
  split
  · exact le
  · trivial

theorem tryMap_onward (f : a.Value β → Except UserError (b.Value β)) :
    (tryMap f x).Onward keys := by
  intro env n s
  refine (onward env _ s).andThen fun v t le => ?_
  split
  · exact le
  · trivial

theorem lex_onward (reader : TokenReader) : (lex x reader).Onward keys := by
  intro env n s
  refine (onward env _ s).andThen fun v t le => ?_
  split
  · trivial
  · dsimp only
    split
    · trivial
    · exact le

theorem inside_onward {env inner : Env} {first lo : Nat} (le : env.Advances lo s.offset) :
    (inside x inner first s).Onward keys env lo := by
  have ended := onward inner defaultLookahead (s.enter inner first)
  unfold State.enter at ended
  unfold inside run
  generalize x inner defaultLookahead _ = o at ended ⊢
  rcases o with ⟨(_ | _ | _ | _ | _) | v, t⟩
  case ok => exact le
  case error.signal => exact ⟨le, ended.2⟩
  all_goals trivial

theorem traced_onward (hook : TraceEvent β a → List (Note β)) : (traced x hook).Onward keys := by
  intro env n s
  have first := onward env n s
  unfold traced
  generalize x env n s = o at first ⊢
  rcases o with ⟨(_ | _ | _ | _ | _) | v, t⟩
  case ok => exact first
  case error.signal => exact first
  all_goals trivial

theorem named_onward (name : String) : (named name x).Onward keys := by
  intro env n s
  have first := onward env n s
  unfold named
  generalize x env n s = o at first ⊢
  rcases o with ⟨(_ | _ | _ | _ | _) | v, t⟩
  case ok => exact first
  case error.signal => exact first
  all_goals trivial

end

theorem ifElse_onward (onward : x.Onward keys) {yes : a.Value β → Action β b} {no : Action β b}
    (yesOnward : ∀ v, (yes v).Onward keys) (noOnward : no.Onward keys) :
    (ifElse x yes no).Onward keys := by
  intro env n s
  have first := onward env defaultLookahead s
  unfold ifElse run
  generalize x env defaultLookahead s = o at first ⊢
  rcases o with ⟨(_ | _ | _ | _ | _) | v, t⟩
  case ok => exact (yesOnward v env _ t).later first
  case error.signal => exact first
  case error.fail =>
    dsimp only
    split
    · trivial
    · have second := noOnward env defaultLookahead ((t.restore s.cursor).setError none)
      generalize no env defaultLookahead _ = o at second ⊢
      rcases o with ⟨(_ | _ | _ | _ | _) | w, u⟩
      case ok => exact second
      case error.signal => exact second
      all_goals trivial
  all_goals trivial

theorem tryCatch_onward (onward : x.Onward keys)
    {handler : Option (a.Value β) → Key → Handling β (a.Value β)}
    {resume : Option (a.Value β) → Key → Action β a}
    (resumes : ∀ v key, keys key → (resume v key).Onward keys) :
    (tryCatch x handler resume).Onward keys := by
  intro env n s
  have first := onward env defaultLookahead s
  unfold tryCatch run
  generalize x env defaultLookahead s = o at first ⊢
  rcases o with ⟨(_ | sig | _ | _ | _) | v, t⟩
  case ok => exact first
  case error.signal =>
    dsimp only
    split
    · exact first.1
    · exact (resumes _ _ first.2 env _ _).later first.1
    · exact first
  all_goals trivial

theorem sum_onward {xs : List (Action β a)} (onward : ∀ x ∈ xs, x.Onward keys) :
    (sum xs).Onward keys :=
  fun env n s => sumFrom_spans n (fun x member => (onward x member).spans env) s

theorem favored_onward (preference : Preference) {xs : List (Action β a)}
    (onward : ∀ x ∈ xs, x.Onward keys) : (favored preference xs).Onward keys := fun env _ s =>
  spans_favored preference (fun x member => (onward x member).spans env) s

theorem loop_onward (onward : x.Onward keys) (min : Nat) (max : Option Nat)
    (finish : List (a.Value β) → b.Value β) : (loop x min max finish).Onward keys := by
  intro env n s
  have rounds {lo hi : Nat} {vs : List (a.Value β)}
      (chain : Chain (fun lo _ hi => env.Advances lo hi) lo vs hi) : env.Advances lo hi :=
    chain.connects (.refl env) (fun _ _ _ => .trans) fun _ _ _ advances => advances
  have spans : (loop x min max finish).Spans env (fun lo _ hi => env.Advances lo hi)
      fun lo sig hi => env.Advances lo hi ∧ keys sig.key := by
    apply (spans_loop (onward.spans env) min max finish).mono
    · intro lo w hi read
      obtain ⟨vs, -, chain⟩ := read
      exact rounds chain
    · intro lo sig hi raised
      obtain ⟨vs, k, inner, chain, ⟨advances, key⟩, rfl⟩ := raised
      exact ⟨(rounds chain).trans advances, key⟩
  exact spans s

theorem nestedFrom_onward {opening closing body : Action β .unit} (opens : opening.Onward keys)
    (closes : closing.Onward keys) (fills : body.Onward keys) (env : Env) (fuel level : Nat)
    (s : State β) :
    (nestedFrom opening closing body env fuel level s).Onward keys env s.offset := by
  induction fuel generalizing level s with
  | zero =>
    cases level with
    | zero => exact Env.Advances.refl env s.offset
    | succ level => trivial
  | succ fuel ih =>
    cases level with
    | zero => exact Env.Advances.refl env s.offset
    | succ level =>
      have still {u : State β} {e : Failure β}
          (unmoved : (e.isFail && !u.cursor.movedFrom s.cursor) = true) :
          env.Advances s.offset u.offset := by
        simp only [Cursor.movedFrom, Bool.and_eq_true, Bool.not_eq_true', bne_eq_false_iff_eq]
          at unmoved
        have same : u.offset = s.offset := unmoved.2
        rw [same]
        exact .refl env s.offset
      have close := closes env defaultLookahead s
      simp only [nestedFrom, run]
      generalize closing env defaultLookahead s = o at close ⊢
      rcases o with ⟨e | v, t⟩ <;> dsimp only
      case ok =>
        split
        · exact (ih level t).later close
        · trivial
      case error =>
        split
        · rename_i unmoved
          have opened := (opens env defaultLookahead t).later (still unmoved)
          generalize opening env defaultLookahead t = o at opened ⊢
          rcases o with ⟨e | v, u⟩ <;> dsimp only
          case ok =>
            split
            · exact (ih (level + 2) u).later opened
            · trivial
          case error =>
            split
            · rename_i unmoved
              refine ((fills env _ u).later (still unmoved)).andThen fun _ v le => ?_
              split
              · exact (ih (level + 1) v).later le
              · trivial
            · exact opened
        · exact close

theorem nested_onward {opening closing body : Action β .unit} (opens : opening.Onward keys)
    (closes : closing.Onward keys) (fills : body.Onward keys) :
    (nested opening closing body).Onward keys :=
  fun env _ s => (opens env _ s).andThen fun _ t le =>
    (nestedFrom_onward opens closes fills env _ 1 t).later le

theorem parseTokens_onward {lexer : Action β (.list .lexeme)} (lexes : lexer.Onward keys)
    (onward : x.Onward keys) (eofTitle : String) (render : Token → String) (origin : String) :
    (parseTokens lexer x eofTitle render origin).Onward keys := by
  intro env n s
  refine (lexes env _ s).andThen fun lexemes t le => ?_
  split
  · trivial
  · exact inside_onward onward le

theorem scanChars_onward {outer : Action β b} (scans : outer.Onward keys) (onward : x.Onward keys)
    (origin : String) : (scanChars outer x origin).Onward keys := by
  intro env n s
  refine (scans env _ s).andThen fun _ t le => ?_
  split
  · trivial
  · exact inside_onward onward le

end Action

namespace Parser

open Descent.Action

variable {calls : Calls β} {p : Parser β a}

def Onward (keys : Key → Prop) (calls : Calls β) (p : Parser β a) : Prop :=
  ∀ x ∈ p.actions calls, x.Onward keys

theorem Onward.spans (onward : p.Onward keys calls) (env : Env) :
    p.Spans calls env (fun lo _ hi => env.Advances lo hi)
      fun lo sig hi => env.Advances lo hi ∧ keys sig.key :=
  fun x member => (onward x member).spans env

theorem Onward.of_eval (onward : (p.eval calls).Onward keys) (single : p.branches = [p]) :
    p.Onward keys calls := by
  unfold Onward actions
  rw [single]
  exact fun x member => by rwa [List.mem_singleton.1 member]

theorem Onward.eval (onward : p.Onward keys calls) : (p.eval calls).Onward keys := by
  unfold Onward actions branches at onward
  split at onward
  case h_1 n branches =>
    have listed : (List.ofFn branches).map (Parser.eval calls) =
        List.ofFn fun i => (branches i).eval calls := List.map_ofFn
    rw [listed] at onward
    exact sum_onward onward
  case h_2 => exact onward _ (by simp)

/-- The grammar raises the key by which a list ends itself only by making lists. -/
inductive Discreet : {a : Ty} → Parser β a → Prop
  | list {a b c : Ty} (finish : List (a.Value β) → b.Value β) {sep : Parser β c} {p : Parser β a}
    (separator : Discreet sep) (item : Discreet p) : Discreet (sepEndBy1With finish sep p)
  | caught {a : Ty} {p : Parser β a} (handler : Option (a.Value β) → Key → Handling β (a.Value β))
    {resume : Option (a.Value β) → Key → Parser β a} (part : Discreet p)
    (resumes : ∀ v key, key.id ≠ .listEnd → Discreet (resume v key)) :
    Discreet (.tryCatch p handler resume)
  | other {a : Ty} {p : Parser β a} (raised : ∀ key, p = .raise key → key.id ≠ .listEnd)
    (parts : ∀ q, p.HasPart q → Discreet q.2) : Discreet p

def Unreserved (key : Key) : Prop := key.id ≠ .listEnd

theorem list_onward (finish : List (a.Value β) → b.Value β) {c : Ty} {sep : Parser β c}
    (separator : sep.Onward Unreserved calls) (item : p.Onward Unreserved calls) :
    ((sepEndBy1With finish sep p).eval calls).Onward Unreserved := by
  intro env n s
  -- The list catches its own signal, so what it lets out is of another key.
  have outbound : Outbound (β := β) (a := a) env.Advances (fun lo _ hi => env.Advances lo hi)
      fun lo sig hi => env.Advances lo hi ∧ Unreserved sig.key :=
    ⟨And.right, fun _ raised => raised, fun le raised => ⟨le.trans raised.1, raised.2⟩,
      fun le raised => ⟨le.trans raised.1, raised.2⟩⟩
  have list := spans_sepEndBy1With finish (.refl env) outbound (separator.eval.spans env)
    (item.spans env)
  have spans : ((sepEndBy1With finish sep p).eval calls).Spans env
      (fun lo _ hi => env.Advances lo hi)
      fun lo sig hi => env.Advances lo hi ∧ Unreserved sig.key := by
    apply list.mono
    · intro lo w hi read
      obtain ⟨v, vs, k, -, first, row⟩ := read
      exact first.trans (row.connects (fun _ _ _ => .trans) (fun _ _ advances => advances)
        fun _ _ _ advances => advances)
    · intro lo sig hi raised
      exact raised
  exact spans s

theorem eval_onward (raised : ∀ key, p = .raise key → keys key)
    (called : ∀ name, (calls name).Onward keys) (parts : ∀ q, p.HasPart q → q.2.Onward keys calls) :
    p.Onward keys calls := by
  have part {b : Ty} {q : Parser β b} (isPart : p.HasPart ⟨b, q⟩) : (q.eval calls).Onward keys :=
    (parts _ isPart).eval
  cases p with
  | sum k ps =>
    intro x member
    obtain ⟨q, isBranch, rfl⟩ := List.mem_map.1 member
    obtain ⟨i, rfl⟩ := List.mem_ofFn.1 isBranch
    exact part ⟨i, rfl⟩
  | ret => exact .of_eval (fun env _ s => .refl env s.offset) rfl
  | getIndex => exact .of_eval (fun env _ s => .refl env s.offset) rfl
  | raise key => exact .of_eval (fun env _ s => ⟨.refl env s.offset, raised key rfl⟩) rfl
  | reject | abort | fault => exact .of_eval (fun _ _ _ => trivial) rfl
  | eof l => exact .of_eval (eof_onward l) rfl
  | token f => exact .of_eval (token_onward f) rfl
  | char k f => exact .of_eval (char_onward k f) rfl
  | pattern p l => exact .of_eval (pattern_onward p l) rfl
  | matched p => exact .of_eval (matched_onward (part rfl)) rfl
  | bind p f =>
    exact .of_eval (bind_onward (part (.inl rfl)) fun v => part (.inr ⟨v, rfl⟩)) rfl
  | atomize p => exact .of_eval (atomize_onward (part rfl)) rfl
  | lookahead m p => exact .of_eval (fun env _ s => part (q := p) rfl env m s) rfl
  | stepBy m p => exact .of_eval (stepBy_onward (part rfl) m) rfl
  | peek p => exact .of_eval (peek_onward (part rfl)) rfl
  | label l p => exact .of_eval (label_onward (part rfl) l) rfl
  | isConsumed message p => exact .of_eval (isConsumed_onward (part rfl) message) rfl
  | notConsumed message p => exact .of_eval (notConsumed_onward (part rfl) message) rfl
  | test check l p => exact .of_eval (test_onward (part rfl) check l) rfl
  | ifElse p yes no =>
    exact .of_eval (ifElse_onward (part (.inl rfl)) (fun v => part (.inr (.inl ⟨v, rfl⟩)))
      (part (.inr (.inr rfl)))) rfl
  | tryCatch p handler resume =>
    exact .of_eval (tryCatch_onward (part (.inl rfl)) fun v key _ => part (.inr ⟨v, key, rfl⟩)) rfl
  | tryMap f p => exact .of_eval (tryMap_onward (part rfl) f) rfl
  | favored preference k ps =>
    refine .of_eval (favored_onward preference fun x member => ?_) rfl
    obtain ⟨i, rfl⟩ := List.mem_ofFn.1 member
    exact part ⟨i, rfl⟩
  | loop p min max finish => exact .of_eval (loop_onward (part rfl) min max finish) rfl
  | nested opening closing body =>
    exact .of_eval (nested_onward (part (.inl rfl)) (part (.inr (.inl rfl)))
      (part (.inr (.inr rfl)))) rfl
  | lex p reader => exact .of_eval (lex_onward (part rfl) reader) rfl
  | parseTokens lexer p eofTitle render origin =>
    exact .of_eval (parseTokens_onward (part (.inl rfl)) (part (.inr rfl)) eofTitle render origin)
      rfl
  | scanChars outer p origin =>
    exact .of_eval (scanChars_onward (part (.inl rfl)) (part (.inr rfl)) origin) rfl
  | traced p hook => exact .of_eval (traced_onward (part rfl) hook) rfl
  | lazy make => exact .of_eval (fun env n s => part (q := make ()) rfl env n s) rfl
  | rule name => exact .of_eval (called name) rfl
  | named name p => exact .of_eval (named_onward (part rfl) name) rfl

theorem Discreet.onward_of_calls (discreet : p.Discreet)
    (called : ∀ name, (calls name).Onward Unreserved) : p.Onward Unreserved calls := by
  induction discreet with
  | list finish _ _ separator item => exact .of_eval (list_onward finish separator item) rfl
  | caught handler _ _ part resumes =>
    exact .of_eval (tryCatch_onward part.eval fun v key other => (resumes v key other).eval) rfl
  | other raised _ parts => exact eval_onward raised called parts

theorem calls_onward {rules : Rules β}
    (each : ∀ calls name p, rules.find? name = some p → (∀ name, (calls name).Onward keys) →
      p.Onward keys calls) (depth : Nat) (name : String) :
    (rules.calls depth name).Onward keys := by
  induction depth generalizing name with
  | zero => exact fun _ _ _ => trivial
  | succ depth ih =>
    unfold Rules.calls
    split
    · rename_i q found
      exact (each _ name q found ih).eval
    · exact fun _ _ _ => trivial

theorem Discreet.onward {rules : Rules β}
    (each : ∀ name p, rules.find? name = some p → p.Discreet) (depth : Nat)
    (discreet : p.Discreet) : p.Onward Unreserved (rules.calls depth) :=
  discreet.onward_of_calls
    (calls_onward (fun _ name q found called => (each name q found).onward_of_calls called) depth)

theorem onward_of_calls (called : ∀ name, (calls name).Onward fun _ => True) (p : Parser β a) :
    p.Onward (fun _ => True) calls :=
  induct (fun _ parts => eval_onward (fun _ _ => trivial) called parts) p

theorem onward (rules : Rules β) (depth : Nat) (p : Parser β a) :
    p.Onward (fun _ => True) (rules.calls depth) :=
  onward_of_calls (calls_onward (fun _ _ q _ called => onward_of_calls called q) depth) p

end Parser

end Descent
