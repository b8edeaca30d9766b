import Descent.Proofs.Pattern.Language
import Descent.Proofs.Pattern.Repetition

set_option autoImplicit false

namespace Descent

open Text (drop? drop?_size_append)

namespace Matcher

theorem charWhere_of_passes {test : Char → Bool} {c : Char} (passes : test c = true)
    (s : List Char) :
    charWhere test (c :: s) = some c.utf8Size ∧ drop? c.utf8Size (c :: s) = some s := by
  constructor
  · simp [charWhere, passes]
  · simpa using drop?_size_append [c] s

theorem repeatWhere_eq_rounds (test : Char → Bool) (n : Nat) :
    repeatWhere test n = rounds (charWhere test) n 0 := by
  funext s
  induction n generalizing s with
  | zero => simp [repeatWhere, rounds]
  | succ n ih =>
    cases s with
    | nil =>
      rw [rounds_succ_of_none n rfl]
      rfl
    | cons c s =>
      by_cases passes : test c = true
      · obtain ⟨matched, dropped⟩ := charWhere_of_passes passes s
        rw [rounds_succ_of_some n matched dropped, ← ih]
        simp [repeatWhere, passes]
      · rw [rounds_succ_of_none n (by simp [charWhere, passes])]
        simp [repeatWhere, passes]

theorem spanWhere_eq_upTo (test : Char → Bool) (limit : Option Nat) (s : List Char) :
    spanWhere test limit s = upTo (charWhere test) limit s := by
  induction s generalizing limit with
  | nil =>
    rw [upTo_of_none limit rfl]
    cases limit <;> simp [spanWhere]
  | cons c s ih =>
    by_cases full : limit = some 0
    · rw [full, upTo_zero]
      simp [spanWhere]
    · by_cases passes : test c = true
      · obtain ⟨matched, dropped⟩ := charWhere_of_passes passes s
        rw [upTo_of_some (charWhere_fits test) full matched
          (Nat.ne_of_gt c.utf8Size_pos) dropped, ← ih]
        rcases limit with _ | _ | n
        · simp [spanWhere, passes]
        · exact absurd rfl full
        · simp [spanWhere, passes]
      · rw [upTo_of_none limit (by simp [charWhere, passes])]
        rcases limit with _ | _ | n
        · simp [spanWhere, passes]
        · exact absurd rfl full
        · simp [spanWhere, passes]

theorem repeatedWhere_eq_repeated (test : Char → Bool) (min : Nat) (extra : Option Nat) :
    repeatedWhere test min extra = repeated (charWhere test) min extra := by
  funext s
  rw [repeated_eq, repeatedWhere, repeatWhere_eq_rounds]
  cases rounds (charWhere test) min 0 s with
  | none => rfl
  | some head =>
    simp only [Option.bind_eq_bind, Option.bind_some, spanWhere_eq_upTo]
    cases drop? head s <;> rfl

theorem repeated_zero (m : Matcher) (n : Nat) : m.repeated n (some 0) = m.rounds n 0 := by
  funext s
  rw [repeated_eq]
  cases matched : m.rounds n 0 s with
  | none => rfl
  | some k =>
    obtain ⟨q, rest, rfl, rfl⟩ := rounds_fits n (p := []) matched
    simp [drop?_size_append, upTo_zero]

theorem rounds_one {m : Matcher} (fits : m.Fits) : m.rounds 1 0 = m := by
  funext s
  cases matched : m s with
  | none => exact rounds_succ_of_none 0 matched
  | some k =>
    obtain ⟨q, rest, rfl, rfl⟩ := fits s k matched
    rw [rounds_succ_of_some 0 matched (drop?_size_append q rest)]
    simp [rounds]

theorem not_andThen_atLeast_run (p : Pattern) :
    (Pattern.andThen (.not p) (.atLeast 1)).run = except p.run := by
  funext s
  rw [Pattern.andThen_run]
  cases matched : p.run s with
  | some k => simp [Matcher.andThen, Pattern.run, except, matched]
  | none =>
    cases s <;> simp [Matcher.andThen, Pattern.run, except, matched, after, firstChars, charWhere]

end Matcher

namespace Pattern

open Matcher

variable {p : Pattern} {k : CharClass} {min max : Nat}

theorem bounded_run (le : min ≤ max) :
    (if max = 0 then always else bounded min max p).run =
      p.run.repeated min (some (max - min)) := by
  split
  case isTrue none =>
    subst none
    obtain rfl : min = 0 := by omega
    rw [repeated_zero]
    funext s
    simp [run, rounds]
  case isFalse => rw [run]

theorem boundedClass_run (le : min ≤ max) :
    (if max = 0 then always else boundedClass min max k).run =
      (inClass k).run.repeated min (some (max - min)) := by
  rw [← bounded_run le]
  split
  · rfl
  · rw [run, run, run, repeatedWhere_eq_repeated]

theorem upTo_run (max : Nat) (p : Pattern) : (upTo max p).run = p.run.repeated 0 (some max) :=
  bounded_run (Nat.zero_le max)

theorem exactlyTimes_run (n : Nat) : (exactlyTimes n p).run = p.run.repeated n (some 0) := by
  rw [repeated_zero]
  unfold exactlyTimes
  split
  · funext s
    simp [run, rounds]
  · exact (rounds_one p.run_fits).symm
  · rw [run]

theorem checked_run {q : Pattern} {m : Matcher} (run : min ≤ max → q.run = m) :
    (do BoundsError.check min max; return q : Except BoundsError Pattern).map Pattern.run =
      (BoundsError.check min max).map fun _ => m := by
  unfold BoundsError.check
  by_cases crossed : max < min
  · rw [if_pos crossed]
    rfl
  · rw [if_neg crossed]
    exact congrArg Except.ok (run (Nat.le_of_not_lt crossed))

theorem between_run (min max : Nat) (p : Pattern) :
    (between min max p).map run =
      (BoundsError.check min max).map fun _ => p.run.repeated min (some (max - min)) :=
  checked_run bounded_run

theorem betweenOf_run (min max : Nat) (k : CharClass) :
    (betweenOf min max k).map run =
      (BoundsError.check min max).map fun _ => (inClass k).run.repeated min (some (max - min)) :=
  checked_run boundedClass_run

theorem timesOf_run (n : Nat) (k : CharClass) :
    (timesOf n k).run = (exactlyTimes n (inClass k)).run := by
  unfold timesOf exactlyTimes
  split
  · rfl
  · rfl
  · rw [run, run, run, repeatWhere_eq_rounds]

/-- A pattern that reads the characters of a class in one go matches like the one that repeats one
character, and is refused for the same bounds. -/
theorem special_forms_match_general (k : CharClass) (p : Pattern) :
    ((∀ n, (timesOf n k).run = (exactlyTimes n (inClass k)).run) ∧
      (manyOf k).run = (many 0 (inClass k)).run ∧
      (∀ min, (atLeastOf min k).run = (many min (inClass k)).run) ∧
      (∀ max, (upToOf max k).run = (upTo max (inClass k)).run) ∧
      ∀ min max, (betweenOf min max k).map run = (between min max (inClass k)).map run) ∧
    ((∀ s, (notString s).run = (andThen (.not (string s)) (atLeast 1)).run) ∧
      ∀ s, (notStringNoCase s).run = (andThen (.not (stringNoCase s)) (atLeast 1)).run) ∧
    ((∀ n, (exactlyTimes n p).run = (times n p).run) ∧
      (∀ n, (timesOf n k).run = (timesClass n k).run) ∧
      (∀ max, (upTo max p).run = (bounded 0 max p).run) ∧
      (∀ max, (upToOf max k).run = (boundedClass 0 max k).run) ∧
      (∀ min max, (between min max p).map run =
        (BoundsError.check min max).map fun _ => (bounded min max p).run) ∧
      (∀ min max, (betweenOf min max k).map run =
        (BoundsError.check min max).map fun _ => (boundedClass min max k).run) ∧
      (∀ ps, (anyOf ps).run = (any ps).run) ∧
      ∀ ps, (sequence ps).run = (seq ps).run) := by
  have ofClass (min : Nat) : (atLeastOf min k).run = (many min (inClass k)).run := by
    rw [atLeastOf, run, run, run, repeatedWhere_eq_repeated]
  have upToClass (max : Nat) : (upToOf max k).run = (inClass k).run.repeated 0 (some max) :=
    boundedClass_run (Nat.zero_le max)
  have times (n : Nat) : (exactlyTimes n p).run = (times n p).run := by
    rw [exactlyTimes_run, repeated_zero, run]
  have timesClass (n : Nat) : (timesOf n k).run = (timesClass n k).run := by
    rw [timesOf_run, exactlyTimes_run, repeated_zero, run, run, repeatWhere_eq_rounds]
  refine ⟨⟨fun n => timesOf_run n k, ofClass 0, ofClass, ?_, ?_⟩, ⟨?_, ?_⟩,
    ⟨times, timesClass, ?_, ?_, ?_, ?_, ?_, ?_⟩⟩
  · intro max
    rw [upToClass, upTo_run]
  · intro min max
    rw [betweenOf_run, between_run]
  · intro s
    rw [not_andThen_atLeast_run]
    rfl
  · intro s
    rw [not_andThen_atLeast_run]
    rfl
  · intro max
    rw [upTo_run, run, Nat.sub_zero]
  · intro max
    rw [upToClass, run, run, Nat.sub_zero, repeatedWhere_eq_repeated]
  · intro min max
    rw [between_run, run]
  · intro min max
    rw [betweenOf_run, run, run, repeatedWhere_eq_repeated]
  · intro ps
    rw [anyOf_run, run]
  · intro ps
    rw [sequence_run, run]

end Pattern

end Descent
