import Mathlib.Data.Fin.VecNotation
import Mathlib.Data.List.OfFn
import Descent.Proofs.Diagnostic.Record
import Descent.Proofs.Parser.Combinators
import Descent.Proofs.Parser.State

set_option autoImplicit false

namespace Descent

/-- Alternations, mapped results and messages, put together in any way. No alternation is empty. -/
inductive Objection (β : Type) : Ty → Type where
  | message {a : Ty} (text : String) : Objection β a
  | map {a b : Ty} (f : a.Value β → b.Value β) (t : Objection β a) : Objection β b
  | plus {a : Ty} {n : Nat} (branches : Fin (n + 1) → Objection β a) : Objection β a

namespace Objection

variable {β : Type} {a b : Ty}

def parser {a : Ty} : Objection β a → Parser β a
  | message text => .failWith text
  | map f t => t.parser.map f
  | plus branches => .plus (List.ofFn fun i => (branches i).parser)

def messages {a : Ty} : Objection β a → List String
  | message text => [text]
  | map _ t => t.messages
  | plus branches => (List.ofFn fun i => (branches i).messages).flatten

def flattens {a : Ty} : Objection β a → Bool
  | plus _ => true
  | message _ | map _ _ => false

/-- The messages in the slot after a failure, if `said` were there before. -/
def printed {a : Ty} : Objection β a → List String → List String
  | message text, _ => [text]
  | map _ t, said => t.printed said
  | plus branches, said =>
    (List.ofFn fun i said =>
      (if (branches i).flattens then [] else said) ++ (branches i).printed said).foldl
        (fun said more => more said) said

def added (t : Objection β a) (said : List String) : List String :=
  (if t.flattens then [] else said) ++ t.printed said

def Lone {a : Ty} : Objection β a → Prop
  | message _ => True
  | map _ t => t.Lone
  | plus _ => False

def Flat {a : Ty} : Objection β a → Prop
  | message _ => True
  | map _ t => t.Lone
  | plus branches => ∀ i, (branches i).Flat

/-- An alternation in it is mapped only where no message stands before it. -/
def Straight {a : Ty} : Objection β a → Prop
  | message _ => True
  | map _ t => t.Straight
  | plus branches => (branches 0).Straight ∧ ∀ i : Fin _, (branches i.succ).Flat

variable {t : Objection β a} {ts : List (Objection β a)} {said : List String}

def addedBy (ts : List (Objection β a)) (said : List String) : List String :=
  ts.foldl (fun said t => t.added said) said

theorem printed_plus {n : Nat} (branches : Fin (n + 1) → Objection β a) :
    (plus branches).printed said = addedBy (List.ofFn branches) said := by
  have mapped : (List.ofFn fun i said =>
      (if (branches i).flattens then [] else said) ++ (branches i).printed said) =
        (List.ofFn branches).map added := by
    rw [List.map_ofFn]
    rfl
  rw [printed, mapped, List.foldl_map]
  rfl

@[simp] theorem added_plus {n : Nat} (branches : Fin (n + 1) → Objection β a) :
    (plus branches).added said = (plus branches).printed said := rfl

theorem messages_plus {n : Nat} (branches : Fin (n + 1) → Objection β a) :
    (plus branches).messages = (List.ofFn branches).flatMap messages := by
  rw [List.flatMap_def, List.map_ofFn]
  rfl

theorem added_of_not_flattens (single : t.flattens = false) :
    t.added said = said ++ t.printed said := by
  simp [added, single]

theorem added_nil (t : Objection β a) : t.added [] = t.printed [] := by
  simp [added]

theorem messages_ne_nil (t : Objection β a) : t.messages ≠ [] := by
  induction t with
  | message text => exact List.cons_ne_nil text []
  | map f t ih => exact ih
  | plus branches ih =>
    rw [messages_plus, List.ofFn_succ, List.flatMap_cons]
    exact List.append_ne_nil_of_left_ne_nil (ih 0) _

section Sublist

theorem sublist_addedBy
    (each : ∀ t ∈ ts, ∀ said, (said ++ t.messages).Sublist (t.added said)) (said : List String) :
    (said ++ ts.flatMap messages).Sublist (addedBy ts said) := by
  induction ts generalizing said with
  | nil => simp [addedBy]
  | cons t ts ih =>
    have first := (each t List.mem_cons_self said).append_right (ts.flatMap messages)
    have rest := ih (fun u member => each u (List.mem_cons_of_mem t member)) (t.added said)
    rw [List.append_assoc] at first
    exact first.trans rest

theorem sublist_printed_and_added (t : Objection β a) (said : List String) :
    t.messages.Sublist (t.printed said) ∧ (said ++ t.messages).Sublist (t.added said) := by
  induction t generalizing said with
  | message text => exact ⟨.refl _, .refl _⟩
  | map f t ih =>
    have inner := (ih said).1
    exact ⟨inner, inner.append_left said⟩
  | plus branches ih =>
    have all : (said ++ (plus branches).messages).Sublist ((plus branches).printed said) := by
      rw [printed_plus, messages_plus]
      apply sublist_addedBy
      intro t member said
      obtain ⟨i, rfl⟩ := List.mem_ofFn.1 member
      exact (ih i said).2
    exact ⟨(List.sublist_append_right _ _).trans all, all⟩

theorem sublist_printed (t : Objection β a) (said : List String) :
    t.messages.Sublist (t.printed said) :=
  (sublist_printed_and_added t said).1

theorem sublist_added (t : Objection β a) (said : List String) :
    (said ++ t.messages).Sublist (t.added said) :=
  (sublist_printed_and_added t said).2

end Sublist

section Once

theorem addedBy_cons_eq_iff (t : Objection β a) (ts : List (Objection β a)) (said : List String) :
    addedBy (t :: ts) said = said ++ (t :: ts).flatMap messages ↔
      t.added said = said ++ t.messages ∧
        addedBy ts (said ++ t.messages) = said ++ t.messages ++ ts.flatMap messages := by
  have unfolded : addedBy (t :: ts) said = addedBy ts (t.added said) := rfl
  rw [unfolded, List.flatMap_cons, ← List.append_assoc]
  constructor
  · intro once
    have rest : (t.added said ++ ts.flatMap messages).Sublist (addedBy ts (t.added said)) :=
      sublist_addedBy (fun u _ => u.sublist_added) (t.added said)
    have short : (t.added said).length ≤ (said ++ t.messages).length := by
      have := rest.length_le
      rw [once] at this
      simp only [List.length_append] at this ⊢
      omega
    have same := (t.sublist_added said).eq_of_length_le short
    exact ⟨same.symm, by rw [same, once, same]⟩
  · rintro ⟨first, rest⟩
    rw [first, rest]

theorem addedBy_eq_iff
    (each : ∀ t ∈ ts, ∀ said ≠ [], t.added said = said ++ t.messages ↔ t.Flat)
    (some : said ≠ []) :
    addedBy ts said = said ++ ts.flatMap messages ↔ ∀ t ∈ ts, t.Flat := by
  induction ts generalizing said with
  | nil => simp [addedBy]
  | cons t ts ih =>
    have nonempty : said ++ t.messages ≠ [] := List.append_ne_nil_of_left_ne_nil some _
    have later := ih (fun u member => each u (List.mem_cons_of_mem t member)) nonempty
    rw [addedBy_cons_eq_iff, each t List.mem_cons_self said some, later, List.forall_mem_cons]

theorem printed_eq_iff_lone (t : Objection β a) (some : said ≠ []) :
    t.printed said = t.messages ↔ t.Lone := by
  induction t with
  | message text => exact iff_of_true rfl trivial
  | map f t ih => exact ih
  | plus branches ih =>
    refine iff_of_false (fun same => ?_) id
    have both := ((plus branches).sublist_added said).length_le
    rw [added_plus, same, List.length_append] at both
    exact some (List.length_eq_zero_iff.1 (by omega))

theorem added_eq_iff_flat (t : Objection β a) (some : said ≠ []) :
    t.added said = said ++ t.messages ↔ t.Flat := by
  induction t generalizing said with
  | message text => exact iff_of_true rfl trivial
  | map f t ih =>
    rw [added_of_not_flattens rfl, List.append_cancel_left_eq]
    exact t.printed_eq_iff_lone some
  | plus branches ih =>
    have each : ∀ t ∈ List.ofFn branches, ∀ said ≠ [],
        t.added said = said ++ t.messages ↔ t.Flat := by
      intro t member said some
      obtain ⟨i, rfl⟩ := List.mem_ofFn.1 member
      exact ih i some
    rw [added_plus, printed_plus, messages_plus, addedBy_eq_iff each some,
      List.forall_mem_ofFn_iff]
    rfl

theorem printed_nil_eq_iff_straight (t : Objection β a) :
    t.printed [] = t.messages ↔ t.Straight := by
  induction t with
  | message text => exact iff_of_true rfl trivial
  | map f t ih => exact ih
  | plus branches ih =>
    have split := addedBy_cons_eq_iff (branches 0) (List.ofFn fun i : Fin _ => branches i.succ) []
    have rest : addedBy (List.ofFn fun i : Fin _ => branches i.succ) (branches 0).messages =
        (branches 0).messages ++ (List.ofFn fun i : Fin _ => branches i.succ).flatMap messages ↔
          ∀ t ∈ List.ofFn fun i : Fin _ => branches i.succ, t.Flat :=
      addedBy_eq_iff (fun t _ said some => t.added_eq_iff_flat some) (branches 0).messages_ne_nil
    rw [List.nil_append, List.nil_append] at split
    rw [printed_plus, messages_plus, List.ofFn_succ, split, rest, added_nil, ih 0,
      List.forall_mem_ofFn_iff]
    rfl

end Once

end Objection

structure Diagnostic.Tells (d : Diagnostic) (first last index : Nat) (said : List String) :
    Prop where
  genuine : d.Genuine
  detail : d.detail = { index, messages := said }
  some : said ≠ []
  first : first ≤ d.id
  last : d.id < last

def State.Tells {β : Type} (env : Env) (said : List String) (s : State β) : Prop :=
  said = [] ∧ s.error = none ∨
    ∃ d, s.error = some d ∧ d.Tells 0 s.nextId (env.index s.offset) said

structure Outcome.Tells {β : Type} {a : Ty} (env : Env) (s : State β) (said : List String)
    (o : Outcome β a) : Prop where
  reply : o.reply = .error .fail
  cursor : o.state.cursor = s.cursor
  slot : ∃ d, o.state.error = some d ∧
    d.Tells s.nextId o.state.nextId (env.index s.offset) said

namespace Diagnostic.Tells

variable {d e : Diagnostic} {first middle last index : Nat} {said more : List String}

theorem rank (tells : d.Tells first last index said) : d.rank = 2 := by
  rw [tells.genuine.rank, tells.detail]
  simp [Detail.rank, tells.some]

theorem merge (earlier : d.Tells first middle index said)
    (later : e.Tells middle last index more) :
    (Diagnostic.merge last d e).Tells last (last + 1) index (said ++ more) := by
  have apart : d.id ≠ e.id := Nat.ne_of_lt (Nat.lt_of_lt_of_le earlier.last later.first)
  have level : d.index = e.index := by
    rw [← index_detail, ← index_detail, earlier.detail, later.detail]
  have notBare : d.isBare = false := by simp [earlier.genuine.bare, earlier.rank]
  have node : Diagnostic.merge last d e = merged last d.index d.rank d e := by
    simp [Diagnostic.merge, apart, level, earlier.rank, later.rank, notBare]
  refine ⟨earlier.genuine.merge later.genuine last, ?_,
    List.append_ne_nil_of_left_ne_nil earlier.some _, ?_, ?_⟩
  · rw [detail_merge earlier.genuine later.genuine apart, Detail.merge, ← earlier.genuine.rank,
      ← later.genuine.rank, earlier.rank, later.rank, earlier.detail, later.detail]
    simp [Detail.append]
  · rw [node]
    exact Nat.le_refl last
  · rw [node]
    exact Nat.lt_succ_self last

end Diagnostic.Tells

namespace Outcome.Tells

variable {β : Type} {a b : Ty} {env : Env} {s t : State β} {said more : List String}
  {o : Outcome β a}

theorem state (tells : o.Tells env s said) : o.state.Tells env said := by
  obtain ⟨d, left, told⟩ := tells.slot
  refine .inr ⟨d, left, told.genuine, ?_, told.some, Nat.zero_le _, told.last⟩
  rw [told.detail, State.offset, State.offset, tells.cursor]

theorem le (tells : o.Tells env s said) : s.nextId ≤ o.state.nextId := by
  obtain ⟨d, -, told⟩ := tells.slot
  exact Nat.le_trans told.first (Nat.le_of_lt told.last)

theorem earlier (tells : o.Tells env t said) (cursor : t.cursor = s.cursor)
    (le : s.nextId ≤ t.nextId) : o.Tells env s said := by
  obtain ⟨d, left, told⟩ := tells.slot
  refine ⟨tells.reply, tells.cursor.trans cursor, d, left, told.genuine, ?_, told.some,
    Nat.le_trans le told.first, told.last⟩
  rw [told.detail, State.offset, State.offset, cursor]

theorem message (text : String) (s : State β) :
    ((Action.reject (.message text) : Action β a).run env s).Tells env s [text] :=
  ⟨rfl, rfl, _, rfl, Diagnostic.genuine_leaf _ _, rfl, List.cons_ne_nil _ _, Nat.le_refl _,
    Nat.lt_succ_self _⟩

theorem bind {x : Action β a} (f : a.Value β → Action β b) {n : Nat}
    (tells : (x.run env s).Tells env s said) : (Action.bind x f env n s).Tells env s said := by
  rcases first : x.run env s with ⟨r, t⟩
  rw [first] at tells
  obtain rfl : r = .error .fail := tells.reply
  have ran : Action.bind x f env n s = ⟨.error .fail, t⟩ := by
    simp [Action.bind, first, Action.andThen]
  rw [ran]
  exact ⟨rfl, tells.cursor, tells.slot⟩

theorem branch {x : Action β a} {n : Nat} (before : s.Tells env said)
    (tells : (x.run env s).Tells env s more) :
    (Action.sumFrom env n s.cursor [x] s).Tells env s (said ++ more) := by
  rcases first : x.run env s with ⟨r, t⟩
  rw [first] at tells
  have le := tells.le
  obtain ⟨reply, cursor, d, left, told⟩ := tells
  dsimp only at reply cursor left told le
  subst reply
  have still : t.cursor.committedFrom s.cursor n = false := by
    simp [cursor, Cursor.committedFrom, Cursor.movedFrom]
  have ran : Action.sumFrom env n s.cursor [x] s =
      ⟨.error .fail, (t.mergeError s.error).restore s.cursor⟩ := by
    simp [Action.sumFrom, Action.orElse, Action.fail, first, still]
  rw [ran]
  refine ⟨rfl, rfl, ?_⟩
  rcases before with ⟨rfl, none⟩ | ⟨e, found, told'⟩
  · refine ⟨d, ?_, told.genuine, told.detail, told.some, told.first, Nat.lt_succ_of_lt told.last⟩
    simp [State.restore, State.mergeError, Diagnostic.merge?, none, left]
  · have both := Diagnostic.Tells.merge told' told
    refine ⟨Diagnostic.merge t.nextId e d, ?_, both.genuine, both.detail, both.some,
      Nat.le_trans le both.first, both.last⟩
    simp [State.restore, State.mergeError, Diagnostic.merge?, found, left]

theorem sumFrom_append {xs ys : List (Action β a)} {start : Cursor} {n : Nat}
    (tells : (Action.sumFrom env n start xs t).Tells env t said) (here : t.cursor = start) :
    Action.sumFrom env n start (xs ++ ys) t =
      Action.sumFrom env n start ys (Action.sumFrom env n start xs t).state := by
  have reply := tells.reply
  have cursor := tells.cursor.trans here
  rw [Action.sumFrom_append here]
  generalize Action.sumFrom env n start xs t = o at reply cursor
  obtain ⟨r, u⟩ := o
  dsimp only at reply cursor
  subst reply
  simp [Action.orElse, Cursor.committedFrom, Cursor.movedFrom, cursor]

end Outcome.Tells

namespace Objection

variable {β : Type} {a : Ty} {calls : Calls β} {env : Env} {n : Nat} {s t : State β}
  {said : List String}

theorem actions_plus {m : Nat} (branches : Fin (m + 1) → Objection β a) :
    (plus branches).parser.actions calls =
      (List.ofFn branches).flatMap fun t => t.parser.actions calls := by
  have taken : (plus branches).parser.branches =
      (List.ofFn branches).flatMap fun t => t.parser.branches := by
    have mapped : (List.ofFn fun i => (branches i).parser) = (List.ofFn branches).map parser := by
      rw [List.map_ofFn]
      rfl
    rw [parser, Parser.branches_plus, mapped, List.flatMap_map]
  rw [Parser.actions, taken, List.map_flatMap]
  rfl

theorem eval_plus {m : Nat} (branches : Fin (m + 1) → Objection β a) :
    (plus branches).parser.eval calls = Action.sum ((plus branches).parser.actions calls) := by
  rw [parser, Parser.eval_plus, Parser.actions, Parser.branches_plus, List.map_flatMap]
  rfl

theorem sumFrom_addedBy {ts : List (Objection β a)}
    (each : ∀ t ∈ ts, ∀ (u : State β) said, u.Tells env said →
      (Action.sumFrom env n u.cursor (t.parser.actions calls) u).Tells env u (t.added said))
    {o : Outcome β a} (tells : o.Tells env s said) :
    (Action.sumFrom env n s.cursor (ts.flatMap fun t => t.parser.actions calls) o.state).Tells env s
      (addedBy ts said) := by
  induction ts generalizing o said with
  | nil => exact ⟨rfl, tells.cursor, tells.slot⟩
  | cons t ts ih =>
    have first := each t List.mem_cons_self o.state said tells.state
    rw [tells.cursor] at first
    rw [List.flatMap_cons, first.sumFrom_append tells.cursor]
    exact ih (fun u member => each u (List.mem_cons_of_mem t member))
      (first.earlier tells.cursor tells.le)

theorem eval_tells (t : Objection β a) (n : Nat) {s : State β} {said : List String}
    (before : s.Tells env said) :
    (t.parser.eval calls env n s).Tells env s (t.printed said) ∧
      (Action.sumFrom env n s.cursor (t.parser.actions calls) s).Tells env s (t.added said) := by
  induction t generalizing n s said with
  | message text =>
    exact ⟨.message text s, .branch before (.message text s)⟩
  | map f t ih =>
    have inner : ∀ n, (Parser.eval calls (map f t).parser env n s).Tells env s (t.printed said) :=
      fun n => .bind _ (ih Action.defaultLookahead before).1
    exact ⟨inner n, .branch before (inner Action.defaultLookahead)⟩
  | @plus a m branches ih =>
    have all : (Action.sumFrom env n s.cursor ((plus branches).parser.actions calls) s).Tells env s
        ((plus branches).printed said) := by
      -- The first branch fills the slot; what follows begins with a failure.
      have first := (ih 0 n before).2
      rw [actions_plus, printed_plus, List.ofFn_succ, List.flatMap_cons, first.sumFrom_append rfl]
      apply sumFrom_addedBy _ first
      intro t member u said before
      obtain ⟨i, rfl⟩ := List.mem_ofFn.1 member
      exact (ih i.succ n before).2
    refine ⟨?_, all⟩
    rw [eval_plus]
    exact all

/-- No message is lost, and each is told just once unless an alternation is mapped where a message
stands before it. -/
theorem told_once_iff (calls : Calls β) (t : Objection β a) (env : Env) (lookahead : Nat)
    {s : State β} (silent : s.error = none) :
    ∃ u d, t.parser.eval calls env lookahead s = ⟨.error .fail, u⟩ ∧ u.error = some d ∧
      d.detail = { index := env.index s.offset, messages := t.printed [] } ∧
      t.messages.Sublist d.detail.messages ∧ (d.detail.messages = t.messages ↔ t.Straight) := by
  rcases ran : t.parser.eval calls env lookahead s with ⟨r, u⟩
  have tells : (t.parser.eval calls env lookahead s).Tells env s (t.printed []) :=
    (t.eval_tells lookahead (.inl ⟨rfl, silent⟩)).1
  rw [ran] at tells
  obtain ⟨d, left, told⟩ := tells.slot
  obtain rfl : r = .error .fail := tells.reply
  refine ⟨u, d, rfl, left, told.detail, ?_, ?_⟩
  · rw [told.detail]
    exact t.sublist_printed []
  · rw [told.detail]
    exact t.printed_nil_eq_iff_straight

def pair (first second : String) : Objection Nat .base :=
  map (a := .base) (· + 1) (plus ![message first, message second])

def pairFirst : Objection Nat .base := plus ![pair "one" "two", message "three"]

def pairLast : Objection Nat .base := plus ![message "one", pair "two" "three"]

theorem pairFirst_told_once :
    let env := Env.ofText [] "list" (PositionMap.ofSource [])
    let s : State Nat := env.stateAt .start
    s.error = none ∧ ∃ u d,
      pairFirst.parser.eval (Rules.calls [] 0) env 1 s = ⟨.error .fail, u⟩ ∧ u.error = some d ∧
      d.detail = { index := 0, messages := pairFirst.printed [] } ∧
      pairFirst.messages.Sublist d.detail.messages ∧
      (d.detail.messages = pairFirst.messages ↔ pairFirst.Straight) := by
  intro env s
  have silent : s.error = none := rfl
  exact ⟨silent, told_once_iff (Rules.calls [] 0) pairFirst env 1 silent⟩

theorem pairLast_told_twice :
    let env := Env.ofText [] "list" (PositionMap.ofSource [])
    let s : State Nat := env.stateAt .start
    let o := (pairLast.parser.eval (Rules.calls [] 0)).run env s
    s.error = none ∧ pairLast.messages = ["one", "two", "three"] ∧ o.reply = .error .fail ∧
      o.state.error.map (fun d => d.detail.messages) = some ["one", "one", "two", "three"] := by
  intro env s o
  have told : o.state.error.map (fun d => d.detail.messages) =
      some ["one", "one", "two", "three"] := by decide +kernel
  exact ⟨rfl, by decide, rfl, told⟩

end Objection

end Descent
