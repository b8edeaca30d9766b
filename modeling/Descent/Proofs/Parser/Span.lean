import Descent.Proofs.Parser.Combinators
import Descent.Proofs.Parser.Scanning

set_option autoImplicit false

namespace Descent

variable {β : Type} {a b c : Ty}

def Chain {α : Type} (item : Nat → α → Nat → Prop) : Nat → List α → Nat → Prop
  | lo, [], hi => hi = lo
  | lo, v :: vs, hi => ∃ k, item lo v k ∧ Chain item k vs hi

def Row {α : Type} (gap : Nat → Nat → Prop) (item : Nat → α → Nat → Prop) :
    Nat → List α → Nat → Prop
  | lo, [], hi => gap lo hi
  | lo, v :: vs, hi => ∃ i j, gap lo i ∧ item i v j ∧ Row gap item j vs hi

namespace Chain

variable {α : Type} {item : Nat → α → Nat → Prop} {gap : Nat → Nat → Prop} {v : α} {vs : List α}
  {lo k hi : Nat}

theorem concat (chain : Chain item lo vs k) (last : item k v hi) :
    Chain item lo (vs ++ [v]) hi := by
  induction vs generalizing lo with
  | nil =>
    obtain rfl : k = lo := chain
    exact ⟨hi, last, rfl⟩
  | cons w vs ih =>
    obtain ⟨m, first, rest⟩ := chain
    exact ⟨m, first, ih rest⟩

theorem connects {r : Nat → Nat → Prop} (refl : ∀ i, r i i) (trans : ∀ i j k, r i j → r j k → r i k)
    (chain : Chain item lo vs hi) (items : ∀ i v j, item i v j → r i j) : r lo hi := by
  induction vs generalizing lo with
  | nil =>
    obtain rfl : hi = lo := chain
    exact refl hi
  | cons v vs ih =>
    obtain ⟨k, first, rest⟩ := chain
    exact trans lo k hi (items lo v k first) (ih rest)

theorem row (chain : Chain (fun i v j => ∃ m, gap i m ∧ item m v j) lo vs k) (last : gap k hi) :
    Row gap item lo vs hi := by
  induction vs generalizing lo with
  | nil =>
    obtain rfl : k = lo := chain
    exact last
  | cons v vs ih =>
    obtain ⟨j, ⟨i, before, one⟩, rest⟩ := chain
    exact ⟨i, j, before, one, ih rest⟩

end Chain

namespace Row

variable {α : Type} {gap gap' : Nat → Nat → Prop} {item item' : Nat → α → Nat → Prop}
  {vs : List α} {lo hi : Nat}

theorem mono (row : Row gap item lo vs hi) (gaps : ∀ i j, gap i j → gap' i j)
    (items : ∀ i v j, item i v j → item' i v j) : Row gap' item' lo vs hi := by
  induction vs generalizing lo with
  | nil => exact gaps lo hi row
  | cons v vs ih =>
    obtain ⟨i, j, before, read, rest⟩ := row
    exact ⟨i, j, gaps lo i before, items i v j read, ih rest⟩

theorem connects {r : Nat → Nat → Prop} (trans : ∀ i j k, r i j → r j k → r i k)
    (row : Row gap item lo vs hi) (gaps : ∀ i j, gap i j → r i j)
    (items : ∀ i v j, item i v j → r i j) : r lo hi := by
  induction vs generalizing lo with
  | nil => exact gaps lo hi row
  | cons v vs ih =>
    obtain ⟨i, j, before, read, rest⟩ := row
    exact trans lo i hi (gaps lo i before) (trans i j hi (items i v j read) (ih rest))

theorem le (row : Row gap item lo vs hi) (gaps : ∀ i j, gap i j → i ≤ j)
    (items : ∀ i v j, item i v j → i ≤ j) : lo ≤ hi :=
  row.connects (fun _ _ _ => Nat.le_trans) gaps items

theorem exists_item (row : Row gap item lo vs hi) : ∀ v ∈ vs, ∃ i j, item i v j := by
  induction vs generalizing lo with
  | nil => simp
  | cons v vs ih =>
    obtain ⟨i, j, -, read, rest⟩ := row
    exact List.forall_mem_cons.2 ⟨⟨i, j, read⟩, ih rest⟩

end Row

def Outcome.Spans (good : a.Value β → Nat → Prop) (signals : Signal β → Nat → Prop) :
    Outcome β a → Prop
  | ⟨.ok v, t⟩ => good v t.offset
  | ⟨.error (.signal sig), t⟩ => signals sig t.offset
  | _ => True

def Action.Spans (env : Env) (good : Nat → a.Value β → Nat → Prop)
    (signals : Nat → Signal β → Nat → Prop) (x : Action β a) : Prop :=
  ∀ s, (x.run env s).Spans (good s.offset) (signals s.offset)

def noSignal (_ : Nat) (_ : Signal β) (_ : Nat) : Prop := False

namespace Action

variable {env : Env} {w : Window} {good : Nat → a.Value β → Nat → Prop}
  {good' : Nat → b.Value β → Nat → Prop} {signals signals' : Nat → Signal β → Nat → Prop}
  {x : Action β a}

theorem Spans.mono (spans : x.Spans env good signals) {good' : Nat → a.Value β → Nat → Prop}
    (weaker : ∀ lo v hi, good lo v hi → good' lo v hi)
    (more : ∀ lo sig hi, signals lo sig hi → signals' lo sig hi) : x.Spans env good' signals' := by
  intro s
  have ended := spans s
  generalize x.run env s = o at ended ⊢
  rcases o with ⟨(_ | _ | _ | _ | _) | v, t⟩
  case ok => exact weaker _ _ _ ended
  case error.signal => exact more _ _ _ ended
  all_goals trivial

theorem spans_ret {v : a.Value β} (value : ∀ k, good k v k) :
    (ret v : Action β a).Spans env good signals := fun s => value s.offset

theorem spans_raise {key : Key} (raised : ∀ k, signals k ⟨key, none⟩ k) :
    (raise key : Action β a).Spans env good signals := fun s => raised s.offset

theorem spans_eof (l : String) :
    (eof l : Action β .unit).Spans env (fun lo _ hi => hi = lo ∧ env.stop ≤ hi) signals := by
  intro s
  unfold run eof
  split
  · rename_i ended
    exact ⟨rfl, of_decide_eq_true ended⟩
  · trivial

theorem Scans.spans {m : Matcher} (scans : x.Scans env w m) :
    x.Spans env (fun lo _ hi => ∃ rest k, w.rest? lo = some rest ∧ m rest = some k ∧ hi = lo + k)
      signals := by
  intro s
  cases here : w.rest? s.offset with
  | none =>
    obtain ⟨t, failed⟩ := scans.blind s here
    rw [failed]
    trivial
  | some rest =>
    have echo := scans.echoes s rest here
    generalize found : m rest = r at echo
    generalize x.run env s = o at echo ⊢
    cases echo with
    | missed t => trivial
    | @found k v t offset => exact ⟨rest, k, here, found, offset⟩

theorem spans_bind {f : a.Value β → Action β b} {good' : a.Value β → Nat → b.Value β → Nat → Prop}
    {signals' : a.Value β → Nat → Signal β → Nat → Prop} (spans : x.Spans env good signals)
    (next : ∀ v, (f v).Spans env (good' v) (signals' v)) :
    (bind x f).Spans env (fun lo w hi => ∃ v k, good lo v k ∧ good' v k w hi)
      (fun lo sig hi => signals lo sig hi ∨ ∃ v k, good lo v k ∧ signals' v k sig hi) := by
  intro s
  have first := spans s
  rw [run_bind]
  generalize x.run env s = o at first ⊢
  rcases o with ⟨(_ | _ | _ | _ | _) | v, t⟩
  case ok =>
    have second := next v t
    simp only [andThen]
    generalize (f v).run env t = o at second ⊢
    rcases o with ⟨(_ | _ | _ | _ | _) | w, u⟩
    case ok => exact ⟨v, t.offset, first, second⟩
    case error.signal => exact .inr ⟨v, t.offset, first, second⟩
    all_goals trivial
  case error.signal => exact .inl first
  all_goals trivial

theorem spans_named (name : String) (spans : x.Spans env good signals) :
    (named name x).Spans env good signals := by
  intro s
  have ended := spans s
  unfold run named at *
  generalize x env defaultLookahead s = o at ended ⊢
  rcases o with ⟨(_ | _ | _ | _ | _) | v, t⟩
  case ok => exact ended
  case error.signal => exact ended
  all_goals trivial

theorem sumFrom_spans (n : Nat) {xs : List (Action β a)}
    (spans : ∀ x ∈ xs, x.Spans env good signals) (s : State β) :
    (sumFrom env n s.cursor xs s).Spans (good s.offset) (signals s.offset) := by
  induction xs generalizing s with
  | nil => trivial
  | cons x xs ih =>
    obtain ⟨first, others⟩ := List.forall_mem_cons.1 spans
    have ended := first s
    simp only [sumFrom, orElse]
    generalize x.run env s = o at ended ⊢
    rcases o with ⟨(_ | _ | _ | _ | _) | v, t⟩
    case ok => exact ended
    case error.signal => exact ended
    case error.fail =>
      dsimp only
      split
      · trivial
      · exact ih others ((t.mergeError s.error).restore s.cursor)
    all_goals trivial

theorem spans_sum {xs : List (Action β a)} (spans : ∀ x ∈ xs, x.Spans env good signals) :
    (sum xs).Spans env good signals := fun s => sumFrom_spans defaultLookahead spans s

theorem favoredRest_spans (preference : Preference) {xs : List (Action β a)}
    (spans : ∀ x ∈ xs, x.Spans env good signals) {start best : Cursor} {v : a.Value β}
    (found : good start.offset v best.offset) (s : State β) :
    (favoredRest preference env start xs v best s).Spans (good start.offset)
      (signals start.offset) := by
  induction xs generalizing v best s with
  | nil => exact found
  | cons x xs ih =>
    obtain ⟨first, others⟩ := List.forall_mem_cons.1 spans
    have ended := first (s.restore start)
    simp only [favoredRest]
    generalize x.run env (s.restore start) = o at ended ⊢
    rcases o with ⟨(_ | _ | _ | _ | _) | w, t⟩
    case ok =>
      dsimp only
      split
      · exact ih others ended t
      · exact ih others found t
    case error.fail => exact ih others found t
    case error.signal => exact ended
    all_goals trivial

theorem favoredFrom_spans (preference : Preference) {xs : List (Action β a)}
    (spans : ∀ x ∈ xs, x.Spans env good signals) (error : Option Diagnostic) (s : State β) :
    (favoredFrom preference env s.cursor xs error s).Spans (good s.offset) (signals s.offset) := by
  induction xs generalizing error s with
  | nil => trivial
  | cons x xs ih =>
    obtain ⟨first, others⟩ := List.forall_mem_cons.1 spans
    have ended := first s
    simp only [favoredFrom]
    generalize x.run env s = o at ended ⊢
    rcases o with ⟨(_ | _ | _ | _ | _) | v, t⟩
    case ok => exact favoredRest_spans preference others ended t
    case error.fail =>
      exact ih others _ (((t.mergeError error).setError none).restore s.cursor)
    case error.signal => exact ended
    all_goals trivial

theorem spans_favored (preference : Preference) {xs : List (Action β a)}
    (spans : ∀ x ∈ xs, x.Spans env good signals) : (favored preference xs).Spans env good signals :=
  fun s => favoredFrom_spans preference spans none s

theorem spans_lex (reader : TokenReader) (spans : x.Spans env good signals) :
    Action.Spans (a := .lexeme) env
      (fun lo l hi => l.index = lo ∧ l.length = hi - lo ∧ ∃ v, good lo v hi) signals
      (lex x reader) := by
  intro s
  have ended := spans s
  rw [run, lex]
  generalize x.run env s = o at ended ⊢
  rcases o with ⟨(_ | _ | _ | _ | _) | v, t⟩
  case ok =>
    simp only [andThen]
    split
    · trivial
    · split
      · trivial
      · exact ⟨rfl, rfl, v, ended⟩
  case error.signal => exact ended
  all_goals trivial

theorem loopFrom_spans (spans : x.Spans env good signals) (min : Nat) (max : Option Nat)
    (finish : List (a.Value β) → b.Value β) {lo : Nat} (fuel count : Nat)
    {values : List (a.Value β)} (s : State β) (sofar : Chain good lo values.reverse s.offset) :
    (loopFrom x min max finish env fuel count values s).Spans
      (fun w hi => ∃ vs, w = finish vs ∧ Chain good lo vs hi)
      (fun sig hi => ∃ vs k inner, Chain good lo vs k ∧ signals k inner hi ∧
        sig = ⟨inner.key, some ⟨b, finish vs⟩⟩) := by
  induction fuel generalizing count values s with
  | zero => trivial
  | succ fuel ih =>
    have ended := spans s
    simp only [loopFrom]
    split
    · exact ⟨_, rfl, sofar⟩
    · generalize x.run env s = o at ended ⊢
      rcases o with ⟨(_ | _ | _ | _ | _) | v, t⟩
      case ok =>
        dsimp only
        split
        · rename_i last
          have still : t.offset = s.offset := by
            simp only [Cursor.movedFrom, Bool.and_eq_true, Bool.not_eq_true', bne_eq_false_iff_eq]
              at last
            exact last.2
          exact ⟨_, rfl, still ▸ sofar⟩
        · refine ih (count + 1) t ?_
          rw [List.reverse_cons]
          exact sofar.concat ended
      case error.fail =>
        dsimp only
        split
        · trivial
        · exact ⟨_, rfl, sofar⟩
      case error.signal sig => exact ⟨_, s.offset, sig, sofar, ended, rfl⟩
      all_goals trivial

theorem spans_loop (spans : x.Spans env good signals) (min : Nat) (max : Option Nat)
    (finish : List (a.Value β) → b.Value β) :
    (loop x min max finish).Spans env (fun lo w hi => ∃ vs, w = finish vs ∧ Chain good lo vs hi)
      (fun lo sig hi => ∃ vs k inner, Chain good lo vs k ∧ signals k inner hi ∧
        sig = ⟨inner.key, some ⟨b, finish vs⟩⟩) :=
  fun s => loopFrom_spans spans min max finish _ 0 s rfl

structure Outbound (gap : Nat → Nat → Prop) (good : Nat → a.Value β → Nat → Prop)
    (signals : Nat → Signal β → Nat → Prop) : Prop where
  apart : ∀ {lo sig hi}, signals lo sig hi → sig.key.id ≠ .listEnd
  collected : ∀ {lo key c hi} c', signals lo ⟨key, c⟩ hi → signals lo ⟨key, c'⟩ hi
  afterGap : ∀ {lo k sig hi}, gap lo k → signals k sig hi → signals lo sig hi
  afterItem : ∀ {lo v k sig hi}, good lo v k → signals k sig hi → signals lo sig hi

theorem outbound_noSignal {gap : Nat → Nat → Prop} : Outbound (β := β) gap good noSignal :=
  ⟨False.elim, fun _ => False.elim, fun _ => False.elim, fun _ => False.elim⟩

theorem spans_endOfList {gap : Nat → Nat → Prop} {item : Nat → b.Value β → Nat → Prop}
    (outbound : Outbound gap item signals) {resume : Option (a.Value β) → Key → Action β a}
    (spans : x.Spans env good fun lo sig hi =>
      (sig.key.id = .listEnd ∧ ∃ v, sig.collected = some ⟨a, v⟩ ∧ good lo v hi) ∨
        signals lo sig hi) :
    (tryCatch x Parser.endOfList resume).Spans env good signals := by
  intro s
  have ended := spans s
  rw [run, tryCatch]
  generalize x.run env s = o at ended ⊢
  rcases o with ⟨(_ | sig | _ | _ | _) | v, t⟩
  case ok => exact ended
  case error.signal =>
    rcases ended with ⟨key, v, collected, value⟩ | signal
    · simp only [collected, Option.bind_some, Typed.at?_self, Parser.endOfList, if_pos key]
      exact value
    · have other := outbound.apart signal
      dsimp only
      cases sig.collected.bind (Typed.at? a) with
      | none => exact outbound.collected _ signal
      | some v =>
        simp only [Parser.endOfList, if_neg other]
        exact outbound.collected _ signal
  all_goals trivial

end Action

def Parser.Spans (calls : Calls β) (env : Env) (good : Nat → a.Value β → Nat → Prop)
    (signals : Nat → Signal β → Nat → Prop) (p : Parser β a) : Prop :=
  ∀ x ∈ p.actions calls, x.Spans env good signals

namespace Parser

open Descent.Action

variable {calls : Calls β} {env : Env} {good : Nat → a.Value β → Nat → Prop}
  {signals signals' : Nat → Signal β → Nat → Prop} {p : Parser β a} {sep : Parser β c}
  {gap : Nat → Nat → Prop}

theorem Spans.mono (spans : p.Spans calls env good signals) {good' : Nat → a.Value β → Nat → Prop}
    (weaker : ∀ lo v hi, good lo v hi → good' lo v hi)
    (more : ∀ lo sig hi, signals lo sig hi → signals' lo sig hi) :
    p.Spans calls env good' signals' :=
  fun x member => (spans x member).mono weaker more

theorem Spans.of_eval (spans : (p.eval calls).Spans env good signals)
    (single : p.branches = [p]) : p.Spans calls env good signals := by
  unfold Spans actions
  rw [single]
  exact fun x member => by rwa [List.mem_singleton.1 member]

theorem Spans.eval (spans : p.Spans calls env good signals) :
    (p.eval calls).Spans env good signals := by
  -- An alternation is the sum of its branches; anything else is its own branch.
  unfold Spans actions branches at spans
  split at spans
  case h_1 n branches =>
    have listed : (List.ofFn branches).map (Parser.eval calls) =
        List.ofFn fun i => (branches i).eval calls := List.map_ofFn
    rw [listed] at spans
    exact spans_sum spans
  case h_2 => exact spans _ (by simp)

theorem spans_branches {n : Nat} {branches : Fin n → Parser β a}
    (spans : ∀ i, (branches i).Spans calls env good signals) :
    (sum n branches).Spans calls env good signals := by
  intro x member
  obtain ⟨p, isBranch, rfl⟩ := List.mem_map.1 member
  obtain ⟨i, rfl⟩ := List.mem_ofFn.1 isBranch
  exact (spans i).eval

theorem spans_plus {ps : List (Parser β a)} (spans : ∀ p ∈ ps, p.Spans calls env good signals) :
    (plus ps).Spans calls env good signals := by
  rw [Spans, actions_plus]
  intro x member
  obtain ⟨p, isPart, isBranch⟩ := List.mem_flatMap.1 member
  exact spans p isPart x isBranch

theorem spans_orElse {p q : Parser β a} (spans : p.Spans calls env good signals)
    (spans' : q.Spans calls env good signals) : (orElse p q).Spans calls env good signals := by
  refine spans_plus fun r member => ?_
  simp only [List.mem_cons, List.not_mem_nil, or_false] at member
  rcases member with rfl | rfl
  · exact spans
  · exact spans'

theorem spans_seqRight {q : Parser β b} {good' : Nat → b.Value β → Nat → Prop}
    (spans : (p.eval calls).Spans env good signals)
    (spans' : (q.eval calls).Spans env good' signals') :
    ((seqRight p q).eval calls).Spans env
      (fun lo w hi => ∃ v k, good lo v k ∧ good' k w hi)
      (fun lo sig hi => signals lo sig hi ∨ ∃ v k, good lo v k ∧ signals' k sig hi) :=
  spans_bind spans fun _ => spans'

theorem spans_seqLeft {q : Parser β b} {good' : Nat → b.Value β → Nat → Prop}
    (spans : (p.eval calls).Spans env good noSignal)
    (spans' : (q.eval calls).Spans env good' noSignal) :
    ((seqLeft p q).eval calls).Spans env
      (fun lo v hi => ∃ w k, good lo v k ∧ good' k w hi) noSignal := by
  have second (v : a.Value β) : (Action.bind (q.eval calls) fun _ => Action.ret v).Spans env
      (fun lo u hi => u = v ∧ ∃ w, good' lo w hi) noSignal := by
    have last (w : b.Value β) : (Action.ret v : Action β a).Spans env
        (fun lo u hi => u = v ∧ hi = lo) noSignal := spans_ret fun _ => ⟨rfl, rfl⟩
    refine (spans_bind spans' last).mono ?_ ?_
    · rintro lo u _ ⟨w, k, read, rfl, rfl⟩
      exact ⟨rfl, w, read⟩
    · rintro lo sig hi (raised | ⟨_, _, _, raised⟩) <;> exact raised
  refine (spans_bind spans second).mono ?_ ?_
  · rintro lo _ hi ⟨v, k, first, rfl, w, last⟩
    exact ⟨w, k, first, last⟩
  · rintro lo sig hi (raised | ⟨_, _, _, raised⟩) <;> exact raised

theorem spans_optional (empty : ∀ k, gap k k)
    (spans : (sep.eval calls).Spans env (fun lo _ hi => gap lo hi) signals) :
    ((optional sep).eval calls).Spans env (fun lo _ hi => gap lo hi) signals := by
  rw [eval_optional]
  refine spans_sum fun x member => ?_
  simp only [List.mem_cons, List.not_mem_nil, or_false] at member
  rcases member with rfl | rfl
  · have found (v : c.Value β) : (Action.ret (a := .option c) (some v) : Action β _).Spans env
        (fun lo _ hi => hi = lo) noSignal := spans_ret fun _ => rfl
    refine (spans_bind spans found).mono ?_ ?_
    · rintro lo _ _ ⟨v, k, read, rfl⟩
      exact read
    · rintro lo sig hi (raised | ⟨_, _, _, raised⟩)
      · exact raised
      · exact raised.elim
  · exact spans_ret empty

def Line (gap : Nat → Nat → Prop) (good : Nat → a.Value β → Nat → Prop) (lo : Nat)
    (vs : (Ty.list a).Value β) (hi : Nat) : Prop :=
  vs = [] ∧ hi = lo ∨ ∃ v us k, vs = v :: us ∧ good lo v k ∧ Row gap good k us hi

theorem spans_sepEndBy1With (finish : List (a.Value β) → b.Value β) (empty : ∀ k, gap k k)
    (outbound : Outbound gap good signals)
    (gaps : (sep.eval calls).Spans env (fun lo _ hi => gap lo hi) signals)
    (spans : p.Spans calls env good signals) :
    ((sepEndBy1With finish sep p).eval calls).Spans env
      (fun lo w hi => ∃ v vs k, w = finish (v :: vs) ∧ good lo v k ∧ Row gap good k vs hi)
      signals := by
  -- After a separator there is an item, or the end of the list by a signal.
  have item : p.Spans calls env good fun lo sig hi =>
      (sig.key.id = .listEnd ∧ hi = lo) ∨ signals lo sig hi :=
    spans.mono (fun _ _ _ read => read) fun _ _ _ raised => .inr raised
  have ends : (raise .listEnd : Parser β a).Spans calls env good fun lo sig hi =>
      (sig.key.id = .listEnd ∧ hi = lo) ∨ signals lo sig hi :=
    .of_eval (spans_raise fun _ => .inl ⟨rfl, rfl⟩) rfl
  have either := (spans_orElse item ends).eval
  have round : ((seqRight sep (orElse p (raise .listEnd))).eval calls).Spans env
      (fun lo v hi => ∃ m, gap lo m ∧ good m v hi)
      (fun lo sig hi => (sig.key.id = .listEnd ∧ gap lo hi) ∨ signals lo sig hi) := by
    refine (spans_seqRight gaps either).mono ?_ ?_
    · rintro lo v hi ⟨-, m, before, read⟩
      exact ⟨m, before, read⟩
    · rintro lo sig hi (raised | ⟨-, m, before, ⟨key, rfl⟩ | raised⟩)
      · exact .inr raised
      · exact .inl ⟨key, before⟩
      · exact .inr (outbound.afterGap before raised)
  have after {lo k hi : Nat} {vs : List (a.Value β)} {sig : Signal β}
      (chain : Chain (fun lo v hi => ∃ m, gap lo m ∧ good m v hi) lo vs k)
      (raised : signals k sig hi) : signals lo sig hi := by
    induction vs generalizing lo with
    | nil =>
      obtain rfl : k = lo := chain
      exact raised
    | cons v vs ih =>
      obtain ⟨j, ⟨m, before, read⟩, rest⟩ := chain
      exact outbound.afterGap before (outbound.afterItem read (ih rest))
  have rest (v : a.Value β) : Action.Spans (a := b) env
      (fun lo w hi => ∃ vs, w = finish (v :: vs) ∧ Row gap good lo vs hi)
      (fun lo sig hi => (sig.key.id = .listEnd ∧ ∃ vs,
        sig.collected = some ⟨b, finish (v :: vs)⟩ ∧ Row gap good lo vs hi) ∨ signals lo sig hi)
      (Action.loop ((seqRight sep (orElse p (raise .listEnd))).eval calls) 0 none
        fun vs => finish (v :: vs)) := by
    refine (spans_loop round 0 none fun vs => finish (v :: vs)).mono ?_ ?_
    · rintro lo _ hi ⟨vs, rfl, chain⟩
      exact ⟨vs, rfl, chain.row (empty hi)⟩
    · rintro lo _ hi ⟨vs, k, inner, chain, ⟨key, before⟩ | raised, rfl⟩
      · exact .inl ⟨key, vs, rfl, chain.row before⟩
      · exact .inr (outbound.collected _ (after chain raised))
  refine spans_endOfList outbound ((spans_bind spans.eval rest).mono ?_ ?_)
  · rintro lo _ hi ⟨v, k, first, vs, rfl, row⟩
    exact ⟨v, vs, k, rfl, first, row⟩
  · rintro lo sig hi (raised | ⟨v, k, first, ⟨key, vs, collected, row⟩ | raised⟩)
    · exact .inr raised
    · exact .inl ⟨key, finish (v :: vs), collected, v, vs, k, rfl, first, row⟩
    · exact .inr (outbound.afterItem first raised)

theorem spans_sepEndBy (empty : ∀ k, gap k k) (outbound : Outbound gap good signals)
    (gaps : (sep.eval calls).Spans env (fun lo _ hi => gap lo hi) signals)
    (spans : p.Spans calls env good signals) :
    (sepEndBy sep p).Spans calls env (Line gap good) signals := by
  have nonempty : (sepEndBy1 sep p).Spans calls env (Line gap good) signals := by
    have list := spans_sepEndBy1With (b := .list a) (fun vs => vs) empty outbound gaps spans
    refine .of_eval (list.mono ?_ fun _ _ _ raised => raised) rfl
    rintro lo _ hi ⟨v, vs, k, rfl, first, row⟩
    exact .inr ⟨v, vs, k, rfl, first, row⟩
  have none : (ret [] : Parser β (.list a)).Spans calls env (Line gap good) signals :=
    .of_eval (spans_ret fun _ => .inl ⟨rfl, rfl⟩) rfl
  exact spans_orElse nonempty none

theorem spans_lexemes {delimiter : Scanner β} {lexer : Lexer β}
    {good : Nat → Ty.lexeme.Value β → Nat → Prop} (empty : ∀ k, gap k k)
    (outbound : Outbound (a := .lexeme) gap good signals)
    (gaps : (delimiter.eval calls).Spans env (fun lo _ hi => gap lo hi) signals)
    (spans : lexer.Spans calls env good signals) :
    Action.Spans (a := .list .lexeme) env (Row gap good) signals
      ((Lexer.lexemes delimiter lexer).eval calls) := by
  have list := (spans_sepEndBy empty outbound gaps spans).eval
  refine (spans_seqRight (spans_optional empty gaps) list).mono ?_ ?_
  · rintro lo _ hi ⟨_, k, before, ⟨rfl, rfl⟩ | ⟨v, vs, m, rfl, first, row⟩⟩
    · exact before
    · exact ⟨k, m, before, first, row⟩
  · rintro lo sig hi (raised | ⟨_, k, before, raised⟩)
    · exact raised
    · exact outbound.afterGap before raised

end Parser

end Descent
