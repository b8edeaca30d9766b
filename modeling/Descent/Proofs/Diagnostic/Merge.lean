import Descent.Diagnostic.Basic

set_option autoImplicit false

namespace Descent.Diagnostic

variable {d e f : Diagnostic}

@[simp] theorem index_relabel (id : Nat) (l : String) (d : Diagnostic) :
    (d.relabel id l).index = d.index := by
  cases d <;> rfl

@[simp] theorem id_relabel (id : Nat) (l : String) (d : Diagnostic) : (d.relabel id l).id = id := by
  cases d <;> rfl

theorem index_merge (id : Nat) (d e : Diagnostic) :
    (merge id d e).index = d.index ∨ (merge id d e).index = e.index := by
  unfold merge
  repeat' split
  all_goals first
    | exact .inl rfl
    | exact .inr rfl

theorem merge_cases (id : Nat) (d e : Diagnostic) :
    merge id d e = d ∨ merge id d e = e ∨ (merge id d e).id = id := by
  unfold merge
  repeat' split
  all_goals first
    | exact .inl rfl
    | exact .inr (.inl rfl)
    | exact .inr (.inr rfl)

theorem index_le_merge (id : Nat) (apart : d.id = e.id → d = e) :
    d.index ≤ (merge id d e).index ∧ e.index ≤ (merge id d e).index := by
  by_cases level : d.index = e.index
  · rcases index_merge id d e with same | same <;> omega
  · have different : ¬ d.id = e.id := fun same => level (by rw [apart same])
    unfold merge
    rw [if_neg different, if_pos level]
    split <;> constructor <;> omega

theorem merge?_cases (id : Nat) {x y : Option Diagnostic} (merged : merge? id x y = some f) :
    x = some f ∨ y = some f ∨ ∃ d e, x = some d ∧ y = some e ∧ f = merge id d e := by
  cases x with
  | none => exact .inr (.inl (by simpa [merge?] using merged))
  | some d =>
    cases y with
    | none => exact .inl merged
    | some e =>
      cases merged
      exact .inr (.inr ⟨d, e, rfl, rfl, rfl⟩)

def Reaches (f e : Option Diagnostic) : Prop :=
  ∀ d, e = some d → ∃ d', f = some d' ∧ d.index ≤ d'.index

theorem reaches_refl (e : Option Diagnostic) : Reaches e e := fun d left => ⟨d, left, Nat.le_refl _⟩

theorem reaches_none (f : Option Diagnostic) : Reaches f none := fun d left => by cases left

theorem Reaches.trans {e f g : Option Diagnostic} (first : Reaches g f) (second : Reaches f e) :
    Reaches g e := by
  intro d left
  obtain ⟨d', left', le⟩ := second d left
  obtain ⟨d'', left'', le'⟩ := first d' left'
  exact ⟨d'', left'', Nat.le_trans le le'⟩

theorem reaches_merge? (id : Nat) {e f : Option Diagnostic}
    (apart : ∀ d d', e = some d → f = some d' → d.id = d'.id → d = d') :
    Reaches (merge? id e f) e ∧ Reaches (merge? id e f) f := by
  cases e with
  | none => exact ⟨reaches_none _, reaches_refl f⟩
  | some d =>
    cases f with
    | none => exact ⟨reaches_refl _, reaches_none _⟩
    | some d' =>
      obtain ⟨first, second⟩ := index_le_merge id (apart d d' rfl rfl)
      constructor
      · intro c left
        cases left
        exact ⟨_, rfl, first⟩
      · intro c left
        cases left
        exact ⟨_, rfl, second⟩

end Descent.Diagnostic
