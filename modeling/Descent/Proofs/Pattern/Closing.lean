import Descent.Proofs.Pattern.Shortcut
import Descent.Parser.Scanner

set_option autoImplicit false

namespace Descent

open Text (size)

namespace Matcher

variable {closing : List Char} {body : Matcher}

theorem repeated_andThen {m : Matcher} {t r : List Char}
    (count : upTo body none (t ++ r) = size t) :
    (repeated body 0 none).andThen m (t ++ r) = (m r).map (size t + ·) := by
  simp [Matcher.andThen, after, repeated_open, count, Text.drop?_size_append]

theorem repeated_andThen_of_none {m : Matcher} {s : List Char} (misses : body s = none) :
    (repeated body 0 none).andThen m s = m s := by
  have count : upTo body none ([] ++ s) = size [] := upTo_of_none none misses
  simpa using repeated_andThen (m := m) count

theorem repeated_andThen_of_some {m : Matcher} {t s : List Char} (fits : body.Fits)
    (taken : t ≠ []) (round : body (t ++ s) = some (size t)) :
    (repeated body 0 none).andThen m (t ++ s) =
      ((repeated body 0 none).andThen m s).map (size t + ·) := by
  obtain ⟨u, r, rfl, count⟩ := repeated_fits fits 0 none s _ (repeated_open body none s)
  have unlimited : (none : Option Nat) ≠ some 0 := by simp
  have counted := upTo_of_some fits unlimited round (Nat.ne_of_gt (Text.size_pos taken))
    (Text.drop?_size_append t (u ++ r))
  have more : upTo body none ((t ++ u) ++ r) = size (t ++ u) := by
    rw [List.append_assoc, counted, Option.map_none, count, Text.size_append]
  rw [← List.append_assoc, repeated_andThen more, repeated_andThen count, Option.map_map]
  simp [Function.comp_def, Nat.add_assoc]

def throughFirst (closing : List Char) : Matcher
  | [] => text closing []
  | c :: s =>
    if closing.isPrefixOf (c :: s) then some (size closing)
    else (throughFirst closing s).map (c.utf8Size + ·)

theorem throughFirst_cases (closing s : List Char) :
    (throughFirst closing s = none ∧ ¬ closing <:+: s) ∨
      ∃ b r, s = b ++ (closing ++ r) ∧ throughFirst closing s = some (size (b ++ closing)) ∧
        ∀ b' r', s = b' ++ (closing ++ r') → b.length ≤ b'.length := by
  induction s with
  | nil =>
    by_cases empty : closing = []
    · subst empty
      exact .inr ⟨[], [], rfl, rfl, fun _ _ _ => Nat.zero_le _⟩
    · exact .inl ⟨by simp [throughFirst, text, empty], by simpa using empty⟩
  | cons c s ih =>
    by_cases begins : closing <+: c :: s
    · obtain ⟨r, same⟩ := begins
      refine .inr ⟨[], r, same.symm, ?_, fun _ _ _ => Nat.zero_le _⟩
      simp [throughFirst, ← same]
    · have later : throughFirst closing (c :: s) =
          (throughFirst closing s).map (c.utf8Size + ·) := by
        simp [throughFirst, begins]
      rcases ih with ⟨missed, nowhere⟩ | ⟨b, r, rfl, found, first⟩
      · refine .inl ⟨by rw [later, missed, Option.map_none], fun somewhere => ?_⟩
        exact (List.infix_cons_iff.1 somewhere).elim begins nowhere
      · refine .inr ⟨c :: b, r, rfl, by simp [later, found], fun b' r' same => ?_⟩
        cases b' with
        | nil => exact absurd ⟨r', same.symm⟩ begins
        | cons d b' =>
          have sooner := first b' r' (List.cons.inj same).2
          simpa using sooner

structure ReadsUpTo (closing : List Char) (body : Matcher) : Prop where
  single : ∀ s n, body s = some n → ∃ c r, s = c :: r ∧ n = c.utf8Size
  stops : ∀ s, closing <+: s → body s = none
  goes : ∀ c s, ¬ closing <+: c :: s → closing <:+: s → body (c :: s) = some c.utf8Size

theorem ReadsUpTo.fits (reads : ReadsUpTo closing body) : body.Fits := by
  intro s n matched
  obtain ⟨c, r, rfl, rfl⟩ := reads.single s n matched
  exact ⟨[c], r, rfl, rfl⟩

theorem ReadsUpTo.throughFirst (reads : ReadsUpTo closing body) :
    (repeated body 0 none).andThen (text closing) = Matcher.throughFirst closing := by
  funext s
  induction s with
  | nil =>
    refine repeated_andThen_of_none ?_
    cases matched : body [] with
    | none => rfl
    | some n =>
      obtain ⟨c, r, same, -⟩ := reads.single [] n matched
      cases same
  | cons c s ih =>
    rw [Matcher.throughFirst]
    by_cases begins : closing <+: c :: s
    · rw [repeated_andThen_of_none (reads.stops _ begins)]
      simp [text, begins]
    · rw [if_neg (by simpa using begins)]
      cases round : body (c :: s) with
      | some n =>
        obtain ⟨d, r, same, rfl⟩ := reads.single _ n round
        obtain ⟨rfl, rfl⟩ := List.cons.inj same
        rw [← ih]
        exact repeated_andThen_of_some (t := [c]) reads.fits (List.cons_ne_nil c []) round
      | none =>
        -- A body that gives up too early does so only where the comment is never closed.
        have nowhere : ¬ closing <:+: s := by
          intro somewhere
          cases round.symm.trans (reads.goes c s begins somewhere)
        rcases throughFirst_cases closing s with ⟨missed, -⟩ | ⟨b, r, rfl, -⟩
        · rw [repeated_andThen_of_none round, missed]
          simp [text, begins]
        · exact absurd ⟨b, r, List.append_assoc ..⟩ nowhere

theorem except_text (closing s : List Char) : except (text closing) s =
    if closing.isPrefixOf s then none else charWhere (fun _ => true) s := by
  by_cases begins : closing <+: s <;> simp [except, text, begins]

theorem except_readsUpTo (closing : List Char) : ReadsUpTo closing (except (text closing)) where
  single s n matched := by
    rw [except_text, Option.ite_none_left_eq_some] at matched
    obtain ⟨t, r, rfl, rfl, c, rfl, -⟩ := (charWhere_recognizes _ s n).1 matched.2
    exact ⟨c, r, rfl, rfl⟩
  stops s begins := by simp [except_text, begins]
  goes c s begins _ := by simp [except_text, begins, charWhere]

theorem notPair_run (c d : Char) (s : List Char) : (Scanner.notPair c d).run s =
    if s.length < 2 ∨ [c, d] <+: s then none else charWhere (fun _ => true) s := by
  rw [Scanner.notPair, Pattern.sequence_cons_run, Pattern.sequence_cons_run]
  rcases s with _ | ⟨x, _ | ⟨y, s⟩⟩
  · simp [Matcher.andThen, Pattern.run, Pattern.sequence, firstChars]
  · simp [Matcher.andThen, Pattern.run, Pattern.sequence, firstChars]
  · by_cases begins : [c, d] <+: x :: y :: s <;>
      simp [Matcher.andThen, Pattern.run, Pattern.sequence, firstChars, text, begins, charWhere,
        after]

theorem notPair_readsUpTo (c d : Char) : ReadsUpTo [c, d] (Scanner.notPair c d).run where
  single s n matched := by
    rw [notPair_run, Option.ite_none_left_eq_some] at matched
    obtain ⟨t, r, rfl, rfl, c, rfl, -⟩ := (charWhere_recognizes _ s n).1 matched.2
    exact ⟨c, r, rfl, rfl⟩
  stops s begins := by simp [notPair_run, begins]
  goes x s begins later := by
    have two := later.length_le
    rw [List.length_cons, List.length_cons, List.length_nil] at two
    have enough : ¬ ((x :: s).length < 2 ∨ [c, d] <+: x :: s) := by
      rintro (few | begins')
      · rw [List.length_cons] at few
        omega
      · exact begins begins'
    rw [notPair_run, if_neg enough]
    rfl

end Matcher

end Descent
