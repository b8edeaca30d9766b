import Descent.Parser.Repetition
import Descent.Proofs.Parser.Combinators
import Descent.Proofs.Parser.State

set_option autoImplicit false

namespace Descent

variable {β : Type} {a b c : Ty}

namespace Env

def after (env : Env) (k : Nat) : List Token :=
  match env.input with
  | .chars _ => []
  | .tokens run => (run.lexemes.toList.drop k).map Lexeme.token

def next? (env : Env) (k : Nat) : Option Lexeme :=
  match env.input with
  | .chars _ => none
  | .tokens run => run.lexemes[k]?

theorem head?_after (env : Env) (k : Nat) :
    (env.after k).head? = (env.next? k).map Lexeme.token := by
  unfold after next?
  cases env.input with
  | chars w => rfl
  | tokens run => simp

theorem after_succ (env : Env) (k : Nat) : env.after (k + 1) = (env.after k).tail := by
  unfold after
  cases env.input with
  | chars w => rfl
  | tokens run => rw [← List.map_tail, List.tail_drop]

theorem length_after_le (env : Env) (k : Nat) : (env.after k).length ≤ env.stop - k := by
  unfold after stop
  cases env.input with
  | chars w => exact Nat.zero_le _
  | tokens run => simp

end Env

theorem State.unmoved {s t : State β} (still : t.offset = s.offset) :
    t.cursor.movedFrom s.cursor = false := by
  simpa [Cursor.movedFrom, State.offset] using still

namespace Action

structure Takes (env : Env) (x : Action β a) (f : Lexeme → Option (a.Value β)) : Prop where
  accept : ∀ {s : State β} {v : a.Value β}, (env.next? s.offset).bind f = some v →
    ∃ t, x.run env s = ⟨.ok v, t⟩ ∧ t.offset = s.offset + 1
  refuse : ∀ {s : State β}, (env.next? s.offset).bind f = none →
    ∃ t, x.run env s = ⟨.error .fail, t⟩ ∧ t.offset = s.offset

def Refuses (env : Env) (x : Action β a) (follow : List Token → Prop) : Prop :=
  ∀ s : State β, follow (env.after s.offset) →
    ∃ t, x.run env s = ⟨.error .fail, t⟩ ∧ t.offset = s.offset

structure Reads (env : Env) (x : Action β a) (reading : a.Value β → List Token → Prop)
    (follow : List Token → Prop) : Prop where
  sound : ∀ {s t : State β} {v : a.Value β}, x.run env s = ⟨.ok v, t⟩ →
    ∃ ts, reading v ts ∧ env.after s.offset = ts ++ env.after t.offset
  complete : ∀ {s : State β} {v : a.Value β} {ts rest : List Token},
    reading v ts → follow rest → env.after s.offset = ts ++ rest →
      ∃ t, x.run env s = ⟨.ok v, t⟩ ∧ env.after t.offset = rest

variable {env : Env} {x : Action β a} {f : Lexeme → Option (a.Value β)}
  {reading : a.Value β → List Token → Prop} {follow : List Token → Prop}

theorem run_bind (x : Action β a) (f : a.Value β → Action β b) (s : State β) :
    (bind x f).run env s = andThen (x.run env s) fun v t => (f v).run env t := rfl

namespace Takes

theorem reads {g : Token → Option (a.Value β)} (takes : x.Takes env fun l => g l.token) :
    x.Reads env (fun v ts => ∃ tok, g tok = some v ∧ ts = [tok]) fun _ => True where
  sound {s t v} ran := by
    cases value : (env.next? s.offset).bind fun l => g l.token with
    | none =>
      obtain ⟨u, ran', -⟩ := takes.refuse value
      rw [ran'] at ran
      cases ran
    | some w =>
      obtain ⟨u, ran', offset⟩ := takes.accept value
      rw [ran'] at ran
      cases ran
      obtain ⟨l, next, accepted⟩ := Option.bind_eq_some_iff.1 value
      have first : (env.after s.offset).head? = some l.token := by rw [env.head?_after, next]; rfl
      obtain ⟨rest, tokens⟩ := List.head?_eq_some_iff.1 first
      refine ⟨[l.token], ⟨l.token, accepted, rfl⟩, ?_⟩
      rw [offset, Env.after_succ, tokens]
      rfl
  complete {s v ts rest} related _ tokens := by
    obtain ⟨tok, value, rfl⟩ := related
    have first : (env.next? s.offset).map Lexeme.token = some tok := by
      rw [← env.head?_after, tokens]
      rfl
    obtain ⟨l, next, rfl⟩ := Option.map_eq_some_iff.1 first
    obtain ⟨t, ran, offset⟩ := takes.accept (Option.bind_eq_some_iff.2 ⟨l, next, value⟩)
    refine ⟨t, ran, ?_⟩
    rw [offset, Env.after_succ, tokens]
    rfl

theorem refuses {g : Token → Option (a.Value β)} (takes : x.Takes env fun l => g l.token)
    (apart : ∀ ts, follow ts → ∀ tok ∈ ts.head?, g tok = none) : x.Refuses env follow := by
  refine fun s ends => takes.refuse (Option.bind_eq_none_iff.2 fun l next => ?_)
  exact apart _ ends l.token (by rw [env.head?_after, next]; rfl)

theorem mapRet (takes : x.Takes env f) (g : a.Value β → b.Value β) :
    (bind x fun v => ret (g v)).Takes env fun l => (f l).map g where
  accept {s w} value := by
    have mapped : ((env.next? s.offset).bind f).map g = some w := by
      rw [Option.map_bind]
      exact value
    obtain ⟨v, taken, rfl⟩ := Option.map_eq_some_iff.1 mapped
    obtain ⟨t, ran, offset⟩ := takes.accept taken
    refine ⟨t, ?_, offset⟩
    rw [run_bind, ran]
    rfl
  refuse {s} value := by
    have mapped : ((env.next? s.offset).bind f).map g = none := by
      rw [Option.map_bind]
      exact value
    obtain ⟨t, ran, offset⟩ := takes.refuse (Option.map_eq_none_iff.1 mapped)
    refine ⟨t, ?_, offset⟩
    rw [run_bind, ran]
    rfl

theorem label (takes : x.Takes env f) (l : String) : (label l x).Takes env f where
  accept {s v} value := by
    obtain ⟨t, ran, offset⟩ := takes.accept value
    simp only [run] at ran
    refine ⟨t, ?_, offset⟩
    simp only [run, Action.label, ran, orElse]
  refuse {s} value := by
    obtain ⟨t, ran, offset⟩ := takes.refuse value
    simp only [run] at ran
    refine ⟨relabelError l env t, ?_, ?_⟩
    · simp [run, Action.label, ran, orElse, State.unmoved offset, fail]
    · simpa [State.offset] using offset

theorem named (takes : x.Takes env f) (name : String) : (named name x).Takes env f where
  accept {s v} value := by
    obtain ⟨t, ran, offset⟩ := takes.accept value
    simp only [run] at ran
    refine ⟨t, ?_, offset⟩
    simp only [run, Action.named, ran]
  refuse {s} value := by
    obtain ⟨t, ran, offset⟩ := takes.refuse value
    simp only [run] at ran
    refine ⟨t, ?_, offset⟩
    simp only [run, Action.named, ran]

end Takes

theorem takes_token {tokens : TokenRun} {origin : String} {positions : PositionMap} :
    (token f).Takes (Env.ofTokens tokens origin positions) f where
  accept {s v} value := by
    have here : tokens.lexemes[s.offset]?.bind f = some v := value
    refine ⟨s.next (Env.ofTokens tokens origin positions), ?_, rfl⟩
    simp [run, token, Env.lexeme?, Env.ofTokens, here, ok]
  refuse {s} value := by
    have here : tokens.lexemes[s.offset]?.bind f = none := value
    refine ⟨s.reject (Env.ofTokens tokens origin positions) .encountered, ?_, ?_⟩
    · simp [run, token, Env.lexeme?, Env.ofTokens, here, fail]
    · simp [State.offset]

theorem takes_sum_nil : (sum ([] : List (Action β a))).Takes env fun _ => none where
  accept value := by
    obtain ⟨l, -, value⟩ := Option.bind_eq_some_iff.1 value
    cases value
  refuse {s} _ := ⟨s, rfl, rfl⟩

theorem Takes.sum_singleton (takes : x.Takes env f) : (sum [x]).Takes env f where
  accept {s v} value := by
    obtain ⟨t, ran, offset⟩ := takes.accept value
    refine ⟨t, ?_, offset⟩
    simp only [run, sum, sumFrom] at ran ⊢
    simp only [ran, orElse]
  refuse {s} value := by
    obtain ⟨t, ran, offset⟩ := takes.refuse value
    refine ⟨(t.mergeError s.error).restore s.cursor, ?_, rfl⟩
    simp only [run, sum, sumFrom] at ran ⊢
    simp [ran, orElse, Cursor.committedFrom, State.unmoved offset, fail]

theorem Takes.sum_append {g : Lexeme → Option (a.Value β)} {xs ys : List (Action β a)}
    (first : (sum xs).Takes env f) (second : (sum ys).Takes env g) :
    (sum (xs ++ ys)).Takes env fun l => (f l).or (g l) := by
  have either : ∀ k, ((env.next? k).bind fun l => (f l).or (g l)) =
      ((env.next? k).bind f).or ((env.next? k).bind g) := by
    intro k
    cases env.next? k <;> rfl
  have appended : ∀ s : State β, (sum (xs ++ ys)).run env s =
      orElse ((sum xs).run env s) fun t =>
        if t.cursor.committedFrom s.cursor defaultLookahead then fail t
        else sumFrom env defaultLookahead s.cursor ys t :=
    fun s => sumFrom_append rfl
  have later : ∀ {s t : State β}, (sum xs).run env s = ⟨.error .fail, t⟩ → t.offset = s.offset →
      (sum (xs ++ ys)).run env s = (sum ys).run env t := by
    intro s t ran still
    have uncommitted : ¬ t.cursor.committedFrom s.cursor defaultLookahead = true := by
      simp [Cursor.committedFrom, State.unmoved still]
    have here : t.cursor = s.cursor := sumFrom_restored rfl ran uncommitted
    rw [appended, ran, orElse, if_neg uncommitted, ← here]
    rfl
  -- The first branches that take the token win; only if they refuse it the others are asked.
  constructor
  case accept =>
    intro s v value
    rw [either] at value
    cases taken : (env.next? s.offset).bind f with
    | some w =>
      obtain ⟨t, ran, offset⟩ := first.accept taken
      rw [taken] at value
      cases value
      refine ⟨t, ?_, offset⟩
      rw [appended, ran]
      rfl
    | none =>
      obtain ⟨t, ran, still⟩ := first.refuse taken
      rw [taken, Option.none_or, ← still] at value
      obtain ⟨u, ran', offset⟩ := second.accept value
      exact ⟨u, (later ran still).trans ran', by rw [offset, still]⟩
  case refuse =>
    intro s value
    rw [either, Option.or_eq_none_iff] at value
    obtain ⟨t, ran, still⟩ := first.refuse value.1
    rw [← still] at value
    obtain ⟨u, ran', still'⟩ := second.refuse value.2
    exact ⟨u, (later ran still).trans ran', by rw [still', still]⟩

theorem Takes.actions {calls : Calls β} {p : Parser β a} (takes : (p.eval calls).Takes env f) :
    (sum (p.actions calls)).Takes env f := by
  cases p with
  | sum n ps =>
    have same : Parser.actions calls (.sum n ps) = List.ofFn fun i => (ps i).eval calls := by
      simp only [Parser.actions, Parser.branches, List.map_ofFn]
      rfl
    rw [same]
    exact takes
  | _ => exact takes.sum_singleton

theorem takes_plus {calls : Calls β} {ps : List (Parser β a)}
    {f : Parser β a → Lexeme → Option (a.Value β)}
    (each : ∀ p ∈ ps, (p.eval calls).Takes env (f p)) :
    ((Parser.plus ps).eval calls).Takes env fun l => ps.findSome? (f · l) := by
  rw [Parser.eval_plus]
  induction ps with
  | nil => exact takes_sum_nil
  | cons p ps ih =>
    have first := (each p List.mem_cons_self).actions
    have rest := ih fun q member => each q (List.mem_cons_of_mem _ member)
    have found : (fun l => (p :: ps).findSome? (f · l)) =
        fun l => (f p l).or (ps.findSome? (f · l)) := by
      funext l
      rw [List.findSome?_cons]
      cases f p l <;> rfl
    rw [found, List.flatMap_cons]
    exact first.sum_append rest

theorem Reads.congr {reading' : a.Value β → List Token → Prop} {follow' : List Token → Prop}
    (reads : x.Reads env reading follow) (same : ∀ v ts, reading v ts ↔ reading' v ts)
    (less : ∀ ts, follow' ts → follow ts) : x.Reads env reading' follow' where
  sound run := by
    obtain ⟨ts, related, tokens⟩ := reads.sound run
    exact ⟨ts, (same _ _).1 related, tokens⟩
  complete related next tokens := reads.complete ((same _ _).2 related) (less _ next) tokens

section Sequences

variable {first : a.Value β → List Token → Prop} {after : List Token → Prop}
  {later : a.Value β → b.Value β → List Token → Prop}

theorem Reads.bind {f : a.Value β → Action β b} (head : x.Reads env first follow)
    (tail : ∀ v, (f v).Reads env (later v) after)
    (joins : ∀ v w ts rest, later v w ts → after rest → follow (ts ++ rest)) :
    (Action.bind x f).Reads env
      (fun w ts => ∃ v us ws, first v us ∧ later v w ws ∧ ts = us ++ ws) after where
  sound {s u w} ran := by
    rw [run_bind] at ran
    rcases front : x.run env s with ⟨r, t⟩
    rw [front] at ran
    cases r with
    | error e => cases ran
    | ok v =>
      obtain ⟨us, left, tokens⟩ := head.sound front
      obtain ⟨ws, right, tokens'⟩ := (tail v).sound ran
      refine ⟨us ++ ws, ⟨v, us, ws, left, right, rfl⟩, ?_⟩
      rw [tokens, tokens', List.append_assoc]
  complete {s w ts rest} related next tokens := by
    obtain ⟨v, us, ws, left, right, rfl⟩ := related
    rw [List.append_assoc] at tokens
    obtain ⟨t, front, tokens'⟩ := head.complete left (joins v w ws rest right next) tokens
    obtain ⟨u, back, tokens''⟩ := (tail v).complete right next tokens'
    refine ⟨u, ?_, tokens''⟩
    rw [run_bind, front]
    exact back

theorem Reads.mapRet (reads : x.Reads env first follow) (g : a.Value β → b.Value β) :
    (Action.bind x fun v => ret (g v)).Reads env
      (fun w ts => ∃ v, first v ts ∧ w = g v) follow where
  sound {s u w} ran := by
    rw [run_bind] at ran
    rcases front : x.run env s with ⟨r, t⟩
    rw [front] at ran
    cases r with
    | error e => cases ran
    | ok v =>
      cases ran
      obtain ⟨ts, related, tokens⟩ := reads.sound front
      exact ⟨ts, ⟨v, related, rfl⟩, tokens⟩
  complete {s w ts rest} related next tokens := by
    obtain ⟨v, left, rfl⟩ := related
    obtain ⟨t, front, tokens'⟩ := reads.complete left next tokens
    refine ⟨t, ?_, tokens'⟩
    rw [run_bind, front]
    rfl

theorem Reads.orRet (reads : x.Reads env first follow) (refuses : x.Refuses env follow)
    (w : a.Value β) :
    (sum [x, ret w]).Reads env (fun v ts => first v ts ∨ v = w ∧ ts = []) follow where
  sound {s u v} ran := by
    rcases front : x.run env s with ⟨r, t⟩
    have tried : (sum [x, ret w]).run env s =
        orElse (x.run env s) fun t => if t.cursor.committedFrom s.cursor defaultLookahead then
          fail t else ok w ((t.mergeError s.error).restore s.cursor) := rfl
    rw [tried, front] at ran
    rcases r with (_ | _ | _ | _ | _) | v'
    case ok =>
      cases ran
      obtain ⟨ts, related, tokens⟩ := reads.sound front
      exact ⟨ts, .inl related, tokens⟩
    case error.fail =>
      dsimp only [orElse] at ran
      split at ran
      case isTrue => cases ran
      case isFalse =>
        cases ran
        exact ⟨[], .inr ⟨rfl, rfl⟩, rfl⟩
    all_goals cases ran
  complete {s v ts rest} related next tokens := by
    rcases related with related | ⟨rfl, rfl⟩
    · obtain ⟨t, front, tokens'⟩ := reads.complete related next tokens
      refine ⟨t, ?_, tokens'⟩
      simp only [run, sum, sumFrom] at front ⊢
      simp only [front, orElse]
    · obtain ⟨t, front, still⟩ := refuses s (tokens ▸ next)
      refine ⟨(t.mergeError s.error).restore s.cursor, ?_, tokens⟩
      simp only [run, sum, sumFrom] at front ⊢
      simp [front, orElse, Cursor.committedFrom, State.unmoved still, ret, ok]

theorem Refuses.bind {f : a.Value β → Action β b} (refuses : x.Refuses env follow) :
    (Action.bind x f).Refuses env follow := by
  intro s next
  obtain ⟨t, ran, still⟩ := refuses s next
  refine ⟨t, ?_, still⟩
  rw [run_bind, ran]
  rfl

end Sequences

def Star (reading : a.Value β → List Token → Prop) : List (a.Value β) → List Token → Prop
  | [], ts => ts = []
  | v :: vs, ts => ∃ us ws, reading v us ∧ Star reading vs ws ∧ ts = us ++ ws

theorem star_iff {ι : Type} {P : ι → Prop} {value : ι → a.Value β} {tokens : ι → List Token}
    {vs : List (a.Value β)} {ts : List Token} :
    Star (fun v ts => ∃ i, P i ∧ v = value i ∧ ts = tokens i) vs ts ↔
      ∃ is : List ι, (∀ i ∈ is, P i) ∧ vs = is.map value ∧ ts = is.flatMap tokens := by
  constructor
  · intro star
    induction vs generalizing ts with
    | nil => exact ⟨[], by simp, rfl, star⟩
    | cons v vs ih =>
      obtain ⟨_, ws, ⟨i, holds, rfl, rfl⟩, others, rfl⟩ := star
      obtain ⟨is, all, rfl, rfl⟩ := ih others
      exact ⟨i :: is, List.forall_mem_cons.2 ⟨holds, all⟩, rfl, rfl⟩
  · rintro ⟨is, all, rfl, rfl⟩
    induction is with
    | nil => rfl
    | cons i is ih =>
      obtain ⟨holds, others⟩ := List.forall_mem_cons.1 all
      exact ⟨tokens i, is.flatMap tokens, ⟨i, holds, rfl, rfl⟩, ih others, rfl⟩

section Repetition

variable {ends : List Token → Prop} {finish : List (a.Value β) → b.Value β}

theorem Reads.loopFrom_sound (reads : x.Reads env reading follow) {fuel count : Nat}
    {values : List (a.Value β)} {s t : State β} {w : b.Value β}
    (ran : loopFrom x 0 none finish env fuel count values s = ⟨.ok w, t⟩) :
    ∃ vs ts, Star reading vs ts ∧ w = finish (values.reverse ++ vs) ∧
      env.after s.offset = ts ++ env.after t.offset := by
  induction fuel generalizing count values s with
  | zero => cases ran
  | succ fuel ih =>
    simp only [loopFrom, reduceCtorEq, if_false, Nat.zero_le, decide_true, Bool.true_and,
      Nat.not_lt_zero, decide_false, Bool.false_or] at ran
    rcases round : x.run env s with ⟨r, u⟩
    rw [round] at ran
    rcases r with (_ | _ | _ | _ | _) | v
    case ok =>
      dsimp only at ran
      split at ran
      case isTrue still =>
        cases ran
        have same : t.offset = s.offset := by
          simpa [Cursor.movedFrom, State.offset] using still
        exact ⟨[], [], rfl, by simp, by rw [same]; rfl⟩
      case isFalse =>
        obtain ⟨us, related, tokens⟩ := reads.sound round
        obtain ⟨vs, ts, rounds, rfl, tokens'⟩ := ih ran
        refine ⟨v :: vs, us ++ ts, ⟨us, ts, related, rounds, rfl⟩, by simp, ?_⟩
        rw [tokens, tokens', List.append_assoc]
    case error.fail =>
      dsimp only at ran
      split at ran
      case isTrue => cases ran
      case isFalse =>
        cases ran
        exact ⟨[], [], rfl, by simp, rfl⟩
    all_goals cases ran

theorem Reads.loopFrom_complete (reads : x.Reads env reading follow)
    (moves : ∀ v ts, reading v ts → ts ≠ []) (refuses : x.Refuses env ends)
    (joins : ∀ v ts rest, reading v ts → follow (ts ++ rest)) (last : ∀ ts, ends ts → follow ts)
    {fuel count : Nat} {values vs : List (a.Value β)} {s : State β} {ts rest : List Token}
    (rounds : Star reading vs ts) (next : ends rest) (tokens : env.after s.offset = ts ++ rest)
    (enough : ts.length < fuel) :
    ∃ t, loopFrom x 0 none finish env fuel count values s =
        ⟨.ok (finish (values.reverse ++ vs)), t⟩ ∧ env.after t.offset = rest := by
  -- Each round takes a token, so the tokens that are left bound the rounds that are left.
  induction vs generalizing fuel count values s ts with
  | nil =>
    obtain ⟨fuel, rfl⟩ := Nat.exists_eq_add_one_of_ne_zero (Nat.ne_zero_of_lt enough)
    cases rounds
    obtain ⟨t, round, still⟩ := refuses s (tokens ▸ next)
    refine ⟨t.restore s.cursor, ?_, tokens⟩
    simp [loopFrom, round, State.unmoved still, ok]
  | cons v vs ih =>
    obtain ⟨fuel, rfl⟩ := Nat.exists_eq_add_one_of_ne_zero (Nat.ne_zero_of_lt enough)
    obtain ⟨us, ws, related, others, rfl⟩ := rounds
    have some : us ≠ [] := moves v us related
    rw [List.append_assoc] at tokens
    have further : follow (ws ++ rest) := by
      cases vs with
      | nil =>
        cases others
        exact last _ next
      | cons v' vs' =>
        obtain ⟨us', ws', related', -, rfl⟩ := others
        rw [List.append_assoc]
        exact joins v' us' _ related'
    obtain ⟨t, round, tokens'⟩ := reads.complete related further tokens
    have moved : t.cursor.movedFrom s.cursor = true := by
      simp only [Cursor.movedFrom, bne_iff_ne]
      intro same
      have nothing : us ++ (ws ++ rest) = ws ++ rest := by
        rw [← tokens, ← tokens']
        exact congrArg env.after same.symm
      exact some (List.append_left_eq_self.1 nothing)
    have fewer : ws.length < fuel := by
      have := List.length_pos_iff.2 some
      simp only [List.length_append] at enough
      omega
    have later : ∃ u, loopFrom x 0 none finish env fuel (count + 1) (v :: values) t =
        ⟨.ok (finish ((v :: values).reverse ++ vs)), u⟩ ∧ env.after u.offset = rest :=
      ih others tokens' fewer
    obtain ⟨u, ran, tokens''⟩ := later
    refine ⟨u, ?_, tokens''⟩
    simpa [loopFrom, round, moved] using ran

theorem Reads.loop (reads : x.Reads env reading follow)
    (moves : ∀ v ts, reading v ts → ts ≠ []) (refuses : x.Refuses env ends)
    (joins : ∀ v ts rest, reading v ts → follow (ts ++ rest)) (last : ∀ ts, ends ts → follow ts) :
    (loop x 0 none finish).Reads env
      (fun w ts => ∃ vs, Star reading vs ts ∧ w = finish vs) ends where
  sound ran := by
    obtain ⟨vs, ts, rounds, rfl, tokens⟩ := reads.loopFrom_sound ran
    exact ⟨ts, ⟨vs, rounds, rfl⟩, tokens⟩
  complete {s w ts rest} related next tokens := by
    obtain ⟨vs, rounds, rfl⟩ := related
    have enough : ts.length < 0 + (env.stop - s.offset) + 2 := by
      have bound := env.length_after_le s.offset
      rw [tokens, List.length_append] at bound
      omega
    exact reads.loopFrom_complete moves refuses joins last rounds next tokens enough

end Repetition

end Action

namespace Parser

open Descent.Action (Reads Refuses Star)

variable {calls : Calls β} {env : Env} {p : Parser β a} {q : Parser β b}
  {first : a.Value β → List Token → Prop} {second : b.Value β → List Token → Prop}
  {follow after : List Token → Prop}

def Takes (calls : Calls β) (p : Parser β a) (f : Lexeme → Option (a.Value β)) : Prop :=
  ∀ run origin positions, (p.eval calls).Takes (Env.ofTokens run origin positions) f

theorem Takes.unique {f g : Lexeme → Option (a.Value β)} (one : p.Takes calls f)
    (other : p.Takes calls g) : f = g := by
  funext l
  let run : TokenRun := ⟨[], #[l], 0, "", Token.render⟩
  let env : Env := Env.ofTokens run "" (PositionMap.ofSource [])
  let s : State β := env.stateAt .start
  have oneHere : (p.eval calls).Takes env f := one run _ _
  have otherHere : (p.eval calls).Takes env g := other run _ _
  have first : (env.next? s.offset).bind f = f l := rfl
  have second : (env.next? s.offset).bind g = g l := rfl
  cases value : f l with
  | some v =>
    obtain ⟨t, ran, -⟩ := oneHere.accept (first.trans value)
    cases value' : g l with
    | some w =>
      obtain ⟨u, ran', -⟩ := otherHere.accept (second.trans value')
      rw [ran] at ran'
      cases ran'
      rfl
    | none =>
      obtain ⟨u, ran', -⟩ := otherHere.refuse (second.trans value')
      rw [ran] at ran'
      cases ran'
  | none =>
    obtain ⟨t, ran, -⟩ := oneHere.refuse (first.trans value)
    cases value' : g l with
    | some w =>
      obtain ⟨u, ran', -⟩ := otherHere.accept (second.trans value')
      rw [ran] at ran'
      cases ran'
    | none => rfl

theorem reads_both {f : a.Value β → b.Value β → c.Value β}
    (head : (p.eval calls).Reads env first follow) (tail : (q.eval calls).Reads env second after)
    (joins : ∀ w ts rest, second w ts → after rest → follow (ts ++ rest)) :
    ((both f p q).eval calls).Reads env
      (fun z ts => ∃ v us w ws, first v us ∧ second w ws ∧ z = f v w ∧ ts = us ++ ws) after := by
  have sequence := head.bind (fun v => tail.mapRet (f v)) fun v z ts rest related next => by
    obtain ⟨w, right, -⟩ := related
    exact joins w ts rest right next
  refine sequence.congr (fun z ts => ?_) fun _ next => next
  constructor
  · rintro ⟨v, us, ws, left, ⟨w, right, rfl⟩, rfl⟩
    exact ⟨v, us, w, ws, left, right, rfl, rfl⟩
  · rintro ⟨v, us, w, ws, left, right, rfl, rfl⟩
    exact ⟨v, us, ws, left, ⟨w, right, rfl⟩, rfl⟩

theorem reads_many (item : (p.eval calls).Reads env first follow)
    (moves : ∀ v ts, first v ts → ts ≠ []) (refuses : (p.eval calls).Refuses env after)
    (joins : ∀ v ts rest, first v ts → follow (ts ++ rest)) (last : ∀ ts, after ts → follow ts) :
    ((many p).eval calls).Reads env (Star first) after :=
  (item.loop moves refuses joins last).congr (fun _ _ => by simp) fun _ next => next

theorem reads_optional (item : (p.eval calls).Reads env first follow)
    (refuses : (p.eval calls).Refuses env follow) :
    ((optional p).eval calls).Reads env
      (fun o ts => match o with
        | some v => first v ts
        | none => ts = []) follow := by
  have present := item.mapRet (b := .option a) some
  have absent := refuses.bind (f := fun v => Action.ret (a := .option a) (some v))
  rw [eval_optional]
  refine (present.orRet absent none).congr (fun o ts => ?_) fun _ next => next
  cases o <;> simp

theorem whole_iff {run : TokenRun} {origin label : String} {positions : PositionMap} {n : Nat}
    {s : State β} {v : a.Value β}
    (reads : (p.eval calls).Reads (Env.ofTokens run origin positions) first follow)
    (ends : follow []) :
    ((seqLeft p (.eof label)).eval calls (Env.ofTokens run origin positions) n s).reply = .ok v ↔
      first v ((run.lexemes.toList.drop s.offset).map Lexeme.token) := by
  let env : Env := Env.ofTokens run origin positions
  have next : env.after s.offset = (run.lexemes.toList.drop s.offset).map Lexeme.token := rfl
  have done : ∀ t : State β, env.after t.offset = [] ↔ env.atEnd t.offset = true := by
    intro t
    simp [env, Env.after, Env.atEnd, Env.stop, Env.ofTokens]
  have unfolded : (seqLeft p (.eof label)).eval calls env n s =
      Action.andThen ((p.eval calls).run env s) fun v t =>
        Action.andThen (Action.eof label env Action.defaultLookahead t) fun _ u =>
          Action.ok v u := rfl
  have sequence : ∀ v t, (p.eval calls).run env s = ⟨.ok v, t⟩ →
      ((seqLeft p (.eof label)).eval calls env n s).reply =
        if env.atEnd t.offset then .ok v else .error .fail := by
    intro v t ran
    rw [unfolded, ran]
    by_cases atEnd : env.atEnd t.offset = true <;>
      simp [Action.andThen, Action.eof, Action.ok, Action.fail, atEnd]
  rw [← next]
  constructor
  · intro found
    rcases ran : (p.eval calls).run env s with ⟨r, t⟩
    -- Soundness: the end is reached, so what the parser has read is all there is.
    cases r with
    | error e =>
      rw [unfolded, ran] at found
      cases found
    | ok w =>
      rw [sequence w t ran] at found
      split at found
      case isTrue atEnd =>
        cases found
        obtain ⟨ts, related, tokens⟩ := reads.sound ran
        rw [(done t).2 atEnd, List.append_nil] at tokens
        exact tokens ▸ related
      case isFalse => cases found
  · intro related
    obtain ⟨t, ran, left⟩ := reads.complete related ends (List.append_nil _).symm
    rw [sequence v t ran, (done t).1 left]
    rfl

end Parser

end Descent
