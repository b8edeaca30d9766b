import Descent.Proofs.Parser.Numbering
import Descent.Proofs.Parser.Placement

set_option autoImplicit false

namespace Descent

variable {β : Type}

namespace State

variable {env : Env} {s t : State β} {nests : Env → State β → Env → Nat → Prop}

theorem Evolves.truthful (evolves : s.Evolves nests env t) (truthful : s.Truthful env) :
    t.Truthful env := by
  induction evolves with
  | refl | next | skip | note => exact truthful
  | trans first second ih ih' => exact ih' (ih truthful)
  | reject why => exact (truthful.reject why).1
  | relabel l =>
    unfold Action.relabelError
    split
    · exact truthful
    · exact (truthful.reject _).1
  | setStep evolves le ih => exact ih truthful
  | restore evolves been ih ih' => exact ih truthful
  | regain evolves earlier ih => exact ih truthful
  | merge evolves earlier ih => exact ih truthful
  | inside r allowed evolves nested ih ih' =>
    rcases r with (_ | _ | _ | _ | _) | v <;> exact ih truthful

structure Sound (env : Env) (s : State β) : Prop where
  numbered : s.Numbered
  truthful : s.Truthful env

theorem Sound.evolves (sound : s.Sound env) (evolves : s.Evolves nests env t) : t.Sound env := by
  obtain ⟨book, filed⟩ := sound.numbered
  obtain ⟨book', -, -, filed'⟩ := evolves.follows filed
  exact ⟨⟨book', filed'⟩, evolves.truthful sound.truthful⟩

theorem Sound.restore (sound : s.Sound env) (c : Cursor) : (s.restore c).Sound env := by
  obtain ⟨book, filed⟩ := sound.numbered
  exact ⟨⟨book, filed.error, filed.seen⟩, sound.truthful⟩

theorem Sound.enter (t : State β) (inner : Env) (first : Nat) : (t.enter inner first).Sound inner :=
  ⟨⟨fun _ => .message 0 0 "", filed_of_blank rfl rfl⟩, truthful_of_blank rfl⟩

end State

end Descent
