import Descent.Proofs.Pattern.Shortcut

set_option autoImplicit false

namespace Descent

open Text (size drop?_size_append)

namespace Matcher

variable {m : Matcher}

theorem upTo_unroll (fits : m.Fits) {limit : Option Nat} (admitted : limit ≠ some 0)
    (s : List Char) :
    upTo m limit s = ((m.andThen (repeated m 0 (limit.map (· - 1)))) s).getD 0 := by
  rw [Matcher.andThen]
  cases matched : m s with
  | none => rw [upTo_of_none limit matched, Option.bind_none, Option.getD_none]
  | some k =>
    obtain ⟨t, r, rfl, rfl⟩ := fits s k matched
    rw [Option.bind_some, after, drop?_size_append, Option.bind_some, repeated_open,
      Option.map_some, Option.getD_some]
    by_cases empty : t = []
    · -- An empty round is the last one, before the others as well as among them.
      subst empty
      rw [List.nil_append] at matched ⊢
      rw [upTo_of_zero limit matched, upTo_of_zero _ matched, Text.size_nil]
    · exact upTo_of_some fits admitted matched (Nat.ne_of_gt (Text.size_pos empty))
        (drop?_size_append t r)

theorem repeated_split (m : Matcher) (min : Nat) (extra : Option Nat) :
    repeated m min extra = (rounds m min 0).andThen (repeated m 0 extra) := by
  funext s
  rw [repeated_eq, Matcher.andThen]
  cases rounds m min 0 s with
  | none => rfl
  | some head => cases dropped : Text.drop? head s <;> simp [after, dropped, repeated_open]

theorem upTo_leaves (fits : m.Fits) (s : List Char) :
    ∃ t r, s = t ++ r ∧ upTo m none s = size t ∧ upTo m none r = 0 := by
  refine upTo_rounds fits (fun s n => ∃ t r, s = t ++ r ∧ n = size t ∧ upTo m none r = 0) ?_ ?_ s
  · intro s ends
    refine ⟨[], s, rfl, rfl, ?_⟩
    rcases ends with fails | empty
    · exact upTo_of_none none fails
    · exact upTo_of_zero none empty
  · rintro t s - - ⟨u, r, rfl, length, ended⟩
    exact ⟨t ++ u, r, (List.append_assoc t u r).symm, by rw [length, Text.size_append], ended⟩

theorem upTo_repeated (fits : m.Fits) (s : List Char) :
    upTo (repeated m 0 none) none s = upTo m none s := by
  obtain ⟨t, r, rfl, length, ended⟩ := upTo_leaves fits s
  have all : repeated m 0 none (t ++ r) = some (size t) := by rw [repeated_open, length]
  have last : repeated m 0 none r = some 0 := by rw [repeated_open, ended]
  by_cases empty : t = []
  · subst empty
    rw [length, upTo_of_zero none all]
    rfl
  · have unlimited : (none : Option Nat) ≠ some 0 := by simp
    rw [upTo_of_some (repeated_fits fits 0 none) unlimited all (Nat.ne_of_gt (Text.size_pos empty))
      (drop?_size_append t r), Option.map_none, upTo_of_zero none last, length, Nat.add_zero]

theorem repeated_andThen_repeated (fits : m.Fits) :
    (repeated m 0 none).andThen (repeated m 0 none) = repeated m 0 none := by
  funext s
  obtain ⟨t, r, rfl, length, ended⟩ := upTo_leaves fits s
  simp [Matcher.andThen, repeated_open, after, length, ended, drop?_size_append]

theorem upTo_optional (fits : m.Fits) (s : List Char) :
    upTo (fun s => some ((m s).getD 0)) none s = upTo m none s := by
  have optional : Matcher.Fits fun s => some ((m s).getD 0) := by
    intro s n matched
    obtain rfl := Option.some.inj matched
    cases found : m s with
    | none => exact .zero
    | some k => exact fits s k found
  refine upTo_rounds fits (fun s n => upTo (fun s => some ((m s).getD 0)) none s = n) ?_ ?_ s
  · intro s ends
    apply upTo_of_zero
    rcases ends with fails | empty
    · rw [fails, Option.getD_none]
    · rw [empty, Option.getD_some]
  · intro t s some matched others
    have unlimited : (none : Option Nat) ≠ Option.some 0 := by simp
    rw [upTo_of_some optional unlimited (by rw [matched, Option.getD_some])
      (Nat.ne_of_gt (Text.size_pos some)) (drop?_size_append t s), Option.map_none, others]

theorem upTo_of_size_le (m : Matcher) {n : Nat} {s : List Char} (le : size s ≤ n) :
    upTo m (some n) s = upTo m none s := by
  have few := Nat.le_trans (Text.length_le_size s) le
  simp only [upTo, List.take_of_length_le few]

end Matcher

namespace Pattern

open Matcher

/-- The laws of unrolling hold whether or not the pattern can match empty. -/
theorem repetitions_unroll (p : Pattern) :
    (many 0 p).run = (Pattern.optional (andThen p (many 0 p))).run ∧
      (∀ n, (upTo (n + 1) p).run = (Pattern.optional (andThen p (upTo n p))).run) ∧
      (∀ n, (many n p).run = (andThen (exactlyTimes n p) (many 0 p)).run) ∧
      (∀ m k, ∃ q, between m (m + k) p = .ok q ∧
        q.run = (andThen (exactlyTimes m p) (upTo k p)).run) ∧
      (many 0 (many 0 p)).run = (many 0 p).run ∧
      (many 0 (.optional p)).run = (many 0 p).run ∧
      (andThen (many 0 p) (many 0 p)).run = (many 0 p).run ∧
      ∀ n s, size s ≤ n → (upTo n p).run s = (many 0 p).run s := by
  have fits := p.run_fits
  have open_run (s : List Char) : (many 0 p).run s = some (Matcher.upTo p.run none s) := by
    rw [run, repeated_open]
  refine ⟨?_, ?_, ?_, ?_, ?_, ?_, ?_, ?_⟩
  · funext s
    rw [open_run, upTo_unroll fits (by simp), run, andThen_run, run]
    rfl
  · intro n
    funext s
    rw [upTo_run, repeated_open, upTo_unroll fits (by simp), run, andThen_run, upTo_run]
    rfl
  · intro n
    rw [andThen_run, exactlyTimes_run, repeated_zero, run, run]
    exact repeated_split p.run n none
  · intro m k
    have le : m ≤ m + k := Nat.le_add_right m k
    refine ⟨if m + k = 0 then always else bounded m (m + k) p, ?_, ?_⟩
    · unfold between BoundsError.check
      rw [if_neg (Nat.not_lt.2 le)]
      rfl
    · rw [bounded_run le, andThen_run, exactlyTimes_run, repeated_zero, upTo_run,
        Nat.add_sub_cancel_left]
      exact repeated_split p.run m (some k)
  · funext s
    rw [run, run, repeated_open, upTo_repeated fits, repeated_open]
  · funext s
    rw [run, repeated_open, open_run]
    exact congrArg some (upTo_optional fits s)
  · rw [andThen_run, run]
    exact repeated_andThen_repeated fits
  · intro n s le
    rw [upTo_run, repeated_open, open_run, upTo_of_size_le p.run le]

theorem optional_letters_within_bytes :
    let p : Pattern := .optional (.char 'é')
    size "éé1".toList ≤ 5 ∧ (upTo 5 p).run "éé1".toList = (many 0 p).run "éé1".toList ∧
      (many 0 p).run "éé1".toList = some 4 := by
  intro p
  have le : size "éé1".toList ≤ 5 := by decide
  obtain ⟨-, -, -, -, -, -, -, bounded⟩ := repetitions_unroll p
  exact ⟨le, bounded 5 _ le, by decide⟩

end Pattern

end Descent
