import Descent.Pattern.Basic
import Descent.Regex.Syntax

set_option autoImplicit false

namespace Descent.Regex.Automaton

open Text

theorem advance_fits (m : Automaton) (before : Option Char) (turn : Nat) (todo : List Nat)
    (best : Option Nat) (seen : Array Nat) (p s : List Char) {n : Nat}
    (sofar : ∀ k, best = some k → IsBoundary (p ++ s) k)
    (matched : m.advance before turn todo (size p) best seen s = some n) :
    IsBoundary (p ++ s) n := by
  -- `p` is what has been read: a match is only put down where the automaton has read to.
  induction s generalizing before turn todo best seen p with
  | nil =>
    rw [advance] at matched
    generalize (if (best.isNone && (before.isNone || !m.pinned)) = true
      then todo ++ [m.first] else todo) = begun at matched
    dsimp only at matched
    split at matched
    · exact sofar n matched
    · split at matched
      · cases matched
        exact ⟨p, [], rfl, rfl⟩
      · exact sofar n matched
  | cons c s ih =>
    rw [advance] at matched
    generalize (if (best.isNone && (before.isNone || !m.pinned)) = true
      then todo ++ [m.first] else todo) = begun at matched
    dsimp only at matched
    split at matched
    · exact sofar n matched
    · have length : size p + c.utf8Size = size (p ++ [c]) := by simp
      have text : p ++ c :: s = (p ++ [c]) ++ s := by simp
      rw [length] at matched
      rw [text] at sofar ⊢
      refine ih _ _ _ _ _ (p ++ [c]) (fun k found => ?_) matched
      split at found
      · cases found
        exact ⟨p, c :: s, by simp, rfl⟩
      · exact sofar k found

theorem matchEnd_fits (m : Automaton) : Matcher.Fits m.matchEnd := fun s _ matched =>
  advance_fits m none 1 [] none _ [] s (by simp) matched

def search (m : Automaton) : Search := ⟨m.matchEnd, m.matchEnd_fits⟩

end Descent.Regex.Automaton
