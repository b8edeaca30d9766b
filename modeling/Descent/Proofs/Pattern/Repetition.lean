import Descent.Proofs.Pattern.Boundary

set_option autoImplicit false

namespace Descent.Matcher

open Text (drop?)

variable {m : Matcher} {s rest : List Char} {limit : Option Nat} {k : Nat}

def upTo (m : Matcher) (limit : Option Nat) (s : List Char) : Nat :=
  greedy m (match limit with | some n => s.take n | none => s) 0 s

theorem rounds_from (m : Matcher) (n done : Nat) (s : List Char) :
    rounds m n done s = (rounds m n 0 s).map (done + ·) := by
  induction n generalizing done s with
  | zero => rfl
  | succ n ih =>
    cases matched : m s with
    | none => simp [rounds, matched]
    | some k =>
      cases dropped : drop? k s with
      | none => simp [rounds, matched, dropped]
      | some rest =>
        simp only [rounds, matched, dropped, Option.bind_eq_bind, Option.bind_some]
        rw [ih (done + k), ih (0 + k), Option.map_map]
        have counts : (done + k + ·) = (done + ·) ∘ (0 + k + ·) := by
          funext j
          simp only [Function.comp_apply]
          omega
        rw [counts]

theorem rounds_succ_of_none (n : Nat) (fails : m s = none) : rounds m (n + 1) 0 s = none := by
  simp [rounds, fails]

theorem rounds_succ_of_some (n : Nat) (matched : m s = some k) (dropped : drop? k s = some rest) :
    rounds m (n + 1) 0 s = (rounds m n 0 rest).map (k + ·) := by
  simp [rounds, matched, dropped, rounds_from m n k]

theorem greedy_from (m : Matcher) (room : List Char) (done : Nat) (s : List Char) :
    greedy m room done s = done + greedy m room 0 s := by
  induction room generalizing done s with
  | nil => simp [greedy]
  | cons c room ih =>
    simp only [greedy]
    split
    · rfl
    · rfl
    · split
      · omega
      · rw [ih (done + _), ih (0 + _)]
        omega

theorem greedy_nil (fits : m.Fits) (room : List Char) : greedy m room 0 [] = 0 := by
  cases room with
  | nil => rfl
  | cons c room =>
    cases matched : m [] with
    | none => simp [greedy, matched]
    | some k =>
      have none : k ≤ 0 := (fits [] k matched).le_size
      obtain rfl : k = 0 := by omega
      simp [greedy, matched]

theorem greedy_congr (fits : m.Fits) {room room' : List Char}
    (same : min room.length s.length = min room'.length s.length) :
    greedy m room 0 s = greedy m room' 0 s := by
  induction room generalizing room' s with
  | nil =>
    rcases room' with _ | ⟨c, room'⟩
    · rfl
    · obtain rfl : s = [] := by
        simp only [List.length_nil, List.length_cons] at same
        exact List.eq_nil_of_length_eq_zero (by omega)
      rw [greedy_nil fits, greedy_nil fits]
  | cons c room ih =>
    rcases room' with _ | ⟨c', room'⟩
    · obtain rfl : s = [] := by
        simp only [List.length_nil, List.length_cons] at same
        exact List.eq_nil_of_length_eq_zero (by omega)
      rw [greedy_nil fits, greedy_nil fits]
    · simp only [greedy]
      split
      · rfl
      · rfl
      · rename_i k matched
        split
        · rfl
        · rename_i rest dropped
          obtain ⟨p, rfl, size⟩ := Text.drop?_eq_some_iff.1 dropped
          have some : p ≠ [] := by
            rintro rfl
            cases size
          have taken := List.length_pos_iff.2 some
          have fewer : min room.length rest.length = min room'.length rest.length := by
            simp only [List.length_cons, List.length_append] at same
            omega
          rw [greedy_from m room, greedy_from m room', ih fewer]

theorem upTo_zero (m : Matcher) (s : List Char) : upTo m (some 0) s = 0 := by
  simp [upTo, greedy]

theorem upTo_of_none (limit : Option Nat) (fails : m s = none) : upTo m limit s = 0 := by
  unfold upTo
  generalize (match limit with | some n => s.take n | none => s) = room
  cases room <;> simp [greedy, fails]

theorem upTo_of_zero (limit : Option Nat) (empty : m s = some 0) : upTo m limit s = 0 := by
  unfold upTo
  generalize (match limit with | some n => s.take n | none => s) = room
  cases room <;> simp [greedy, empty]

theorem upTo_of_some (fits : m.Fits) (admitted : limit ≠ some 0) (matched : m s = some k)
    (moves : k ≠ 0) (dropped : drop? k s = some rest) :
    upTo m limit s = k + upTo m (limit.map (· - 1)) rest := by
  obtain ⟨k, rfl⟩ := Nat.exists_eq_add_one_of_ne_zero moves
  obtain ⟨p, rfl, size⟩ := Text.drop?_eq_some_iff.1 dropped
  rcases p with _ | ⟨c, p⟩
  · cases size
  · -- The round takes a character at least, and leaves room for the others.
    have first (room : List Char) :
        greedy m (c :: room) 0 (c :: p ++ rest) = k + 1 + greedy m room 0 rest := by
      simp only [greedy, matched, dropped]
      rw [greedy_from m room]
      omega
    cases limit with
    | none =>
      simp only [upTo, List.cons_append, Option.map_none] at first ⊢
      rw [first]
      congr 1
      exact greedy_congr fits (by simp)
    | some n =>
      rcases n with _ | n
      · exact absurd rfl admitted
      · simp only [upTo, List.cons_append, List.take_succ_cons, Option.map_some,
          Nat.add_sub_cancel] at first ⊢
        rw [first]
        congr 1
        exact greedy_congr fits (by simp)

theorem repeated_eq (m : Matcher) (min : Nat) (extra : Option Nat) (s : List Char) :
    repeated m min extra s = (rounds m min 0 s).bind fun head =>
      (drop? head s).map fun rest => head + upTo m extra rest := by
  cases ahead : rounds m min 0 s with
  | none => simp [repeated, ahead]
  | some head =>
    cases dropped : drop? head s with
    | none => simp [repeated, ahead, dropped]
    | some rest =>
      simp only [repeated, ahead, dropped, Option.bind_eq_bind, Option.bind_some, Option.map_some]
      exact congrArg some (greedy_from m _ head rest)

theorem repeated_open (m : Matcher) (limit : Option Nat) (s : List Char) :
    repeated m 0 limit s = some (upTo m limit s) := by
  simp [repeated_eq, rounds]

theorem upTo_rounds (fits : m.Fits) (claim : List Char → Nat → Prop)
    (ends : ∀ s, m s = none ∨ m s = some 0 → claim s 0)
    (round : ∀ t s, t ≠ [] → m (t ++ s) = some (Text.size t) → claim s (upTo m none s) →
      claim (t ++ s) (Text.size t + upTo m none s))
    (s : List Char) : claim s (upTo m none s) := by
  induction length : s.length using Nat.strongRecOn generalizing s with
  | ind n ih =>
    rcases matched : m s with _ | k
    · rw [upTo_of_none none matched]
      exact ends s (.inl matched)
    · obtain ⟨t, s, rfl, rfl⟩ := fits s k matched
      by_cases empty : t = []
      · subst empty
        rw [upTo_of_zero none matched]
        exact ends _ (.inr matched)
      · have unlimited : (none : Option Nat) ≠ some 0 := by simp
        have positive := Text.size_pos empty
        rw [upTo_of_some fits unlimited matched (Nat.ne_of_gt positive)
          (Text.drop?_size_append t s)]
        have fewer : s.length < n := by
          have := List.length_pos_iff.2 empty
          rw [← length, List.length_append]
          omega
        exact round t s empty matched (ih s.length fewer s rfl)

end Descent.Matcher
