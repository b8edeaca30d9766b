import Descent.Parser.Eval
import Descent.Proofs.Diagnostic.Merge

set_option autoImplicit false

namespace Descent

namespace Cursor

variable {c d : Cursor}

theorem step_eq (fits : c.steps < UInt64.size) : c.step = c.steps := Nat.mod_eq_of_lt fits

-- Until the counter overflows it tells the steps that count for an alternation.
theorem step_sub (grows : c.steps ≤ d.steps) (fits : d.steps < UInt64.size) :
    c.step ≤ d.step ∧ d.step - c.step = d.stepsFrom c := by
  rw [step_eq fits, step_eq (Nat.lt_of_le_of_lt grows fits)]
  exact ⟨grows, rfl⟩

end Cursor

namespace State

variable {β : Type} (env : Env) (s : State β)

@[simp] theorem restore_cursor (c : Cursor) : (s.restore c).cursor = c := rfl
@[simp] theorem setError_cursor (e : Option Diagnostic) : (s.setError e).cursor = s.cursor := rfl
@[simp] theorem complain_cursor (make : Nat → Diagnostic) :
    (s.complain make).cursor = s.cursor := rfl

theorem mergeError_cases {e : Option Diagnostic} {d : Diagnostic}
    (merged : (s.mergeError e).error = some d) :
    e = some d ∨ s.error = some d ∨
      ∃ d₁ d₂, e = some d₁ ∧ s.error = some d₂ ∧ d = Diagnostic.merge s.nextId d₁ d₂ :=
  Diagnostic.merge?_cases s.nextId merged

theorem index_mergeError {P : Nat → Prop} {e : Option Diagnostic}
    (earlier : ∀ d, e = some d → P d.index) (later : ∀ d, s.error = some d → P d.index) :
    ∀ d, (s.mergeError e).error = some d → P d.index := by
  intro d merged
  rcases mergeError_cases s merged with only | only | ⟨d₁, d₂, first, second, rfl⟩
  · exact earlier d only
  · exact later d only
  · rcases Diagnostic.index_merge s.nextId d₁ d₂ with same | same
    · rw [same]
      exact earlier d₁ first
    · rw [same]
      exact later d₂ second

@[simp] theorem encountered_cursor : (s.encountered env).2.cursor = s.cursor := by
  unfold encountered
  cases env.input with
  | chars w => rfl
  | tokens run =>
    dsimp only
    split <;> rfl

@[simp] theorem encountered_error : (s.encountered env).2.error = s.error := by
  unfold encountered
  cases env.input with
  | chars w => rfl
  | tokens run =>
    dsimp only
    split <;> rfl

theorem encountered_cases :
    (s.encountered env).2 = s ∧
        (∃ slot : Nat, s.seen.bind (·[slot]?) = some (s.encountered env).1) ∨
      (s.encountered env).1.id = s.nextId ∧ (s.encountered env).2.nextId = s.nextId + 1 ∧
        ((s.encountered env).2.seen = s.seen ∨
          ∃ slot, (s.encountered env).2.seen =
            s.seen.map (·.insert slot (s.encountered env).1)) := by
  unfold encountered
  cases env.input with
  | chars w => exact .inr ⟨rfl, rfl, .inl rfl⟩
  | tokens run =>
    dsimp only
    split
    case h_1 d seen => exact .inl ⟨rfl, _, seen⟩
    case h_2 => exact .inr ⟨rfl, rfl, .inr ⟨_, rfl⟩⟩

@[simp] theorem reject_cursor (why : Rejection) : (s.reject env why).cursor = s.cursor := by
  cases why <;> simp [reject]

@[simp] theorem relabelError_cursor (l : String) :
    (Action.relabelError l env s).cursor = s.cursor := by
  unfold Action.relabelError
  split <;> simp

def enter (inner : Env) (first : Nat) (s : State β) : State β :=
  ⟨⟨first, 0⟩, none, inner.blankSeen, s.nextId, s.journal⟩

end State

namespace Action

variable {β : Type} {a : Ty}

def leave (inner : Env) (s u : State β) : Reply β a → Outcome β a
  | .ok v => ok v ({ s with nextId := u.nextId, journal := u.journal }.setStep (s.steps + u.steps))
  | .error .fail =>
    fail { s with
      cursor := ⟨inner.index u.offset, s.steps⟩
      error := u.error
      nextId := u.nextId
      journal := u.journal }
  | .error e => ⟨.error e, { s with nextId := u.nextId, journal := u.journal }⟩

theorem inside_of_run {x : Action β a} {inner : Env} {first : Nat} {s u : State β}
    {r : Reply β a} (run : x.run inner (s.enter inner first) = ⟨r, u⟩) :
    inside x inner first s = leave inner s u r := by
  unfold State.enter at run
  simp only [inside, run]
  rcases r with (_ | _ | _ | _ | _) | v <;> rfl

end Action

end Descent
