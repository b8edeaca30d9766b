import Descent.Parser.Scanner
import Descent.Proofs.Parser.Numbering

set_option autoImplicit false

namespace Descent

variable {β : Type} {a : Ty}

open Diagnostic (Reaches)

namespace Action

def leftBy (env : Env) (n : Nat) (start : Cursor) :
    List (Action β a) → State β → List (Option Diagnostic)
  | [], _ => []
  | x :: xs, s =>
    match x.run env s with
    | ⟨.error .fail, t⟩ =>
      t.error ::
        if t.cursor.committedFrom start n then []
        else leftBy env n start xs ((t.mergeError s.error).restore start)
    | _ => []

variable {env : Env} {n : Nat} {nests : Env → State β → Env → Nat → Prop} {s t : State β}

theorem sumFrom_exhausted {xs : List (Action β a)} (regular : ∀ x ∈ xs, x.Regular nests)
    (numbered : s.Numbered) (failed : sumFrom env n s.cursor xs s = ⟨.error .fail, t⟩)
    (exhausted : t.cursor.committedFrom s.cursor n = false) :
    Reaches t.error s.error ∧ ∀ e ∈ leftBy env n s.cursor xs s, Reaches t.error e := by
  induction xs generalizing s with
  | nil =>
    cases failed
    exact ⟨Diagnostic.reaches_refl _, by simp [leftBy]⟩
  | cons x xs ih =>
    have later : ∀ y ∈ xs, y.Regular nests :=
      fun y member => regular y (List.mem_cons_of_mem _ member)
    obtain ⟨r, u, first, evolves⟩ := (regular x List.mem_cons_self).run env s
    simp only [sumFrom, orElse, first] at failed
    simp only [leftBy, first]
    rcases r with (_ | _ | _ | _ | _) | v
    case error.fail =>
      dsimp only at failed ⊢
      split at failed
      case isTrue committed =>
        cases failed
        rw [exhausted] at committed
        cases committed
      case isFalse uncommitted =>
        rw [if_neg uncommitted]
        obtain ⟨book, filed⟩ := numbered
        -- Numbers tell what the branch has left from what was there before.
        obtain ⟨book', agrees, le, filed'⟩ := evolves.follows filed
        have apart : ∀ d d', s.error = some d → u.error = some d' → d.id = d'.id → d = d' :=
          fun d d' before after same =>
            ((filed.error d before).later agrees le).same (filed'.error d' after) same
        obtain ⟨before, after⟩ := Diagnostic.reaches_merge? u.nextId apart
        have merged := (evolves.merge fun _ left => left).follows filed
        obtain ⟨book'', -, -, filed''⟩ := merged.restore s.cursor
        obtain ⟨slot, rest⟩ := ih later ⟨book'', filed''⟩ failed exhausted
        refine ⟨slot.trans before, List.forall_mem_cons.2 ⟨slot.trans after, rest⟩⟩
    all_goals cases failed

theorem sumFrom_committed {xs : List (Action β a)}
    (failed : sumFrom env n s.cursor xs s = ⟨.error .fail, t⟩)
    (committed : t.cursor.committedFrom s.cursor n = true) :
    (leftBy env n s.cursor xs s).getLast? = some t.error := by
  induction xs generalizing s with
  | nil =>
    cases failed
    simp [Cursor.committedFrom, Cursor.movedFrom] at committed
  | cons x xs ih =>
    rcases first : x.run env s with ⟨r, u⟩
    simp only [sumFrom, orElse, first] at failed
    simp only [leftBy, first]
    rcases r with (_ | _ | _ | _ | _) | v
    case error.fail =>
      dsimp only at failed ⊢
      split at failed
      case isTrue moved =>
        cases failed
        rw [if_pos moved]
        rfl
      case isFalse uncommitted =>
        rw [if_neg uncommitted]
        have last : (leftBy env n s.cursor xs
            ((u.mergeError s.error).restore s.cursor)).getLast? = some t.error :=
          ih (s := (u.mergeError s.error).restore s.cursor) failed committed
        rw [List.getLast?_cons, last]
        rfl
    all_goals cases failed

end Action

/-- An alternation that fails keeps the furthest of the failures of its branches, unless a branch
has committed, whose own diagnostic then has to be the furthest. -/
theorem Parser.sum_keeps_furthest_iff (rules : Rules β) (depth : Nat) {m : Nat}
    (branches : Fin m → Parser β a) (env : Env) (lookahead : Nat) {s t : State β}
    (numbered : s.Numbered)
    (failed : (sum m branches).eval (rules.calls depth) env lookahead s = ⟨.error .fail, t⟩) :
    let left := Action.leftBy env lookahead s.cursor
      (List.ofFn fun i => (branches i).eval (rules.calls depth)) s
    (∀ e ∈ left, Reaches t.error e) ↔
      (t.cursor.committedFrom s.cursor lookahead = true →
        ∃ last, left.getLast? = some last ∧ ∀ e ∈ left, Reaches last e) := by
  intro left
  have regular : ∀ x ∈ List.ofFn fun i => (branches i).eval (rules.calls depth),
      x.Regular fun _ _ _ _ => True := by
    intro x member
    obtain ⟨i, rfl⟩ := List.mem_ofFn.mp member
    exact (branches i).eval_evolves rules depth
  constructor
  · intro reaches committed
    exact ⟨t.error, Action.sumFrom_committed failed committed, reaches⟩
  · intro furthest
    cases committed : t.cursor.committedFrom s.cursor lookahead with
    | false => exact (Action.sumFrom_exhausted regular numbered failed committed).2
    | true =>
      obtain ⟨last, isLast, reaches⟩ := furthest committed
      have same := Action.sumFrom_committed failed committed
      rw [isLast] at same
      cases same
      exact reaches

def Parser.afterLetter : Fin 2 → Parser Nat .unit
  | 0 => .atomize (seqRight (Scanner.char 'a') (seqRight (Scanner.char 'b') (Scanner.char 'c')))
  | 1 => seqRight (Scanner.char 'a') (Scanner.char 'z')

theorem Parser.afterLetter_keeps_furthest :
    let env := Env.ofText "ab".toList "line" (PositionMap.ofSource "ab".toList)
    let s : State Nat := env.stateAt .start
    let t := ((sum 2 afterLetter).eval (Rules.calls [] 0) env 2 s).state
    let left := Action.leftBy env 2 s.cursor
      (List.ofFn fun i => (afterLetter i).eval (Rules.calls [] 0)) s
    s.Numbered ∧ (sum 2 afterLetter).eval (Rules.calls [] 0) env 2 s = ⟨.error .fail, t⟩ ∧
      ((∀ e ∈ left, Reaches t.error e) ↔
        (t.cursor.committedFrom s.cursor 2 = true →
          ∃ last, left.getLast? = some last ∧ ∀ e ∈ left, Reaches last e)) := by
  intro env s t left
  have numbered : s.Numbered := State.numbered_stateAt env .start
  have failed : (sum 2 afterLetter).eval (Rules.calls [] 0) env 2 s = ⟨.error .fail, t⟩ := by rfl
  exact ⟨numbered, failed,
    Parser.sum_keeps_furthest_iff [] 0 afterLetter env 2 numbered failed⟩

theorem Parser.afterLetter_forgets_furthest :
    let env := Env.ofText "ab".toList "line" (PositionMap.ofSource "ab".toList)
    let s : State Nat := env.stateAt .start
    let o := (sum 2 afterLetter).eval (Rules.calls [] 0) env 1 s
    s.Numbered ∧ o.reply = .error .fail ∧
      ¬ ∀ e ∈ Action.leftBy env 1 s.cursor
        (List.ofFn fun i => (afterLetter i).eval (Rules.calls [] 0)) s,
          Reaches o.state.error e := by
  intro env s o
  have slot : o.state.error.map Diagnostic.index = some 1 := by decide +kernel
  have left : (Action.leftBy env 1 s.cursor
      (List.ofFn fun i => (afterLetter i).eval (Rules.calls [] 0)) s).map
        (Option.map Diagnostic.index) = [some 2, some 1] := by decide +kernel
  refine ⟨State.numbered_stateAt env .start, by rfl, fun reaches => ?_⟩
  obtain ⟨e, member, further⟩ := List.mem_map.1 (left ▸ List.mem_cons_self)
  obtain ⟨d, rfl, isTwo⟩ := Option.map_eq_some_iff.1 further
  obtain ⟨d', here, le⟩ := reaches (some d) member d rfl
  have isOne : d'.index = 1 := by simpa [here] using slot
  omega

end Descent
