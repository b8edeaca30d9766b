import Descent.Pattern.Basic

set_option autoImplicit false

namespace Descent

namespace Text

variable {s t p q r : List Char} {m n : Nat}

theorem eq_of_append (same : p ++ r = q ++ t) (sizes : size p = size q) : p = q := by
  have head := take?_size_append p r
  rw [same, sizes, take?_size_append] at head
  exact (Option.some.inj head).symm

theorem size_pos (some : s ≠ []) : 0 < size s := by
  obtain ⟨c, s, rfl⟩ := List.exists_cons_of_ne_nil some
  exact Nat.add_pos_left c.utf8Size_pos _

theorem prefix_of_size_le (first : p <+: s) (second : q <+: s) (le : size p ≤ size q) :
    p <+: q := by
  rcases List.prefix_or_prefix_of_prefix first second with shorter | ⟨r, rfl⟩
  · exact shorter
  · cases r with
    | nil => exact ⟨[], by simp⟩
    | cons c r =>
      have positive := c.utf8Size_pos
      rw [size_append, size_cons] at le
      omega

theorem length_le_size (s : List Char) : s.length ≤ size s := by
  induction s with
  | nil => exact Nat.le_refl 0
  | cons c s ih =>
    have positive := c.utf8Size_pos
    rw [List.length_cons, size_cons]
    omega

theorem IsBoundary.zero : IsBoundary s 0 := ⟨[], s, rfl, rfl⟩

theorem IsBoundary.of_size : IsBoundary s (size s) := ⟨s, [], by simp, rfl⟩

theorem IsBoundary.le_size (boundary : IsBoundary s n) : n ≤ size s := by
  obtain ⟨p, r, rfl, rfl⟩ := boundary
  simp

theorem isBoundary_iff_drop? : IsBoundary s n ↔ (drop? n s).isSome := by
  rw [Option.isSome_iff_exists]
  constructor
  · rintro ⟨p, r, rfl, rfl⟩
    exact ⟨r, drop?_size_append p r⟩
  · rintro ⟨r, dropped⟩
    obtain ⟨p, text, length⟩ := drop?_eq_some_iff.1 dropped
    exact ⟨p, r, text, length⟩

theorem IsBoundary.append (boundary : IsBoundary r n) : IsBoundary (p ++ r) (size p + n) := by
  obtain ⟨q, t, rfl, rfl⟩ := boundary
  exact ⟨p ++ q, t, by simp, by simp⟩

theorem IsBoundary.cons (c : Char) (boundary : IsBoundary s n) :
    IsBoundary (c :: s) (c.utf8Size + n) := boundary.append (p := [c])

theorem IsBoundary.after (dropped : drop? m s = some r) (boundary : IsBoundary r n) :
    IsBoundary s (m + n) := by
  obtain ⟨p, rfl, rfl⟩ := drop?_eq_some_iff.1 dropped
  exact boundary.append

theorem IsBoundary.extend (boundary : IsBoundary p n) : IsBoundary (p ++ r) n := by
  obtain ⟨q, t, rfl, rfl⟩ := boundary
  exact ⟨q, t ++ r, by simp, rfl⟩

theorem IsBoundary.restrict (boundary : IsBoundary (p ++ r) n) (within : n ≤ size p) :
    IsBoundary p n := by
  obtain ⟨q, t, text, rfl⟩ := boundary
  obtain ⟨d, rfl⟩ := prefix_of_size_le ⟨t, text.symm⟩ (List.prefix_append p r) within
  exact ⟨q, d, rfl, rfl⟩

theorem slice?_isSome_iff : (slice? s m n).isSome ↔ m ≤ n ∧ IsBoundary s m ∧ IsBoundary s n := by
  rw [slice?_eq_bind]
  constructor
  · intro found
    obtain ⟨t, found⟩ := Option.isSome_iff_exists.1 found
    obtain ⟨p, taken, dropped⟩ := Option.bind_eq_some_iff.1 found
    obtain ⟨r, rfl, rfl⟩ := exists_of_take? taken
    have boundary : IsBoundary p m := isBoundary_iff_drop?.2 (by simp [dropped])
    exact ⟨boundary.le_size, boundary.extend, p, r, rfl, rfl⟩
  · rintro ⟨le, first, p, r, rfl, rfl⟩
    rw [take?_size_append, Option.bind_some]
    exact isBoundary_iff_drop?.1 (first.restrict le)

end Text

namespace Matcher

open Text

variable {m : Matcher} {ms : List Matcher}

theorem fits_of_zero (zero : ∀ s n, m s = some n → n = 0) : m.Fits := by
  intro s n matched
  rw [zero s n matched]
  exact .zero

theorem firstChars_fits (n : Nat) : (firstChars n).Fits := by
  intro s k matched
  induction n generalizing s k with
  | zero =>
    cases s <;> simp only [firstChars, Option.some.injEq] at matched <;> subst matched <;>
      exact .zero
  | succ n ih =>
    cases s with
    | nil => simp [firstChars] at matched
    | cons c s =>
      simp only [firstChars, Option.map_eq_some_iff] at matched
      obtain ⟨j, rest, rfl⟩ := matched
      exact (ih s j rest).cons c

theorem charWhere_fits (test : Char → Bool) : (charWhere test).Fits := by
  intro s n matched
  cases s with
  | nil => simp [charWhere] at matched
  | cons c s =>
    simp only [charWhere, Option.ite_none_right_eq_some, Option.some.injEq] at matched
    obtain ⟨-, rfl⟩ := matched
    exact IsBoundary.zero.cons c

theorem escaped_fits : escaped.Fits := by
  intro s n matched
  unfold escaped at matched
  split at matched
  · rename_i c s
    cases matched
    exact ⟨['\\', c], s, rfl, rfl⟩
  · cases matched

theorem text_fits (t : List Char) : (text t).Fits := by
  intro s n matched
  simp only [text, Option.ite_none_right_eq_some, Option.some.injEq] at matched
  obtain ⟨begins, rfl⟩ := matched
  obtain ⟨r, rfl⟩ := List.isPrefixOf_iff_prefix.1 begins
  exact ⟨t, r, rfl, rfl⟩

theorem textNoCase_fits (t : List Char) : (textNoCase t).Fits := by
  intro s n matched
  induction t generalizing s n with
  | nil =>
    simp only [textNoCase, Option.some.injEq] at matched
    subst matched
    exact .zero
  | cons e t ih =>
    cases s with
    | nil => simp [textNoCase] at matched
    | cons c s =>
      simp only [textNoCase, Option.ite_none_right_eq_some, Option.map_eq_some_iff] at matched
      obtain ⟨-, j, rest, rfl⟩ := matched
      exact (ih s j rest).cons c

theorem except_fits : (except m).Fits := by
  intro s n matched
  simp only [except] at matched
  split at matched
  · cases matched
  · exact charWhere_fits _ s n matched

theorem any_fits (fits : ∀ m ∈ ms, m.Fits) : (any ms).Fits := by
  intro s n matched
  induction ms with
  | nil => cases matched
  | cons m ms ih =>
    simp only [any] at matched
    cases first : m s with
    | some k =>
      rw [first] at matched
      cases matched
      exact fits m List.mem_cons_self s n first
    | none =>
      rw [first] at matched
      exact ih (fun m member => fits m (List.mem_cons_of_mem _ member)) matched

theorem after_fits {n k : Nat} {s : List Char} (fits : m.Fits) (matched : after m n s = some k) :
    IsBoundary s (n + k) := by
  obtain ⟨r, dropped, matched⟩ := Option.bind_eq_some_iff.1 matched
  exact .after dropped (fits r k matched)

theorem seq_fits (fits : ∀ m ∈ ms, m.Fits) : (seq ms).Fits := by
  induction ms with
  | nil => exact fits_of_zero fun s n matched => (Option.some.inj matched).symm
  | cons m ms ih =>
    intro s n matched
    simp only [seq, Option.bind_eq_bind, Option.bind_eq_some_iff, Option.some.injEq] at matched
    obtain ⟨k, -, j, rest, rfl⟩ := matched
    exact after_fits (ih fun m member => fits m (List.mem_cons_of_mem _ member)) rest

theorem all_fits (fits : ∀ m ∈ ms, m.Fits) : (all ms).Fits := by
  intro s n matched
  induction ms generalizing n with
  | nil =>
    cases matched
    exact .zero
  | cons m ms ih =>
    simp only [all, Option.bind_eq_bind, Option.bind_eq_some_iff, Option.some.injEq] at matched
    obtain ⟨k, first, j, rest, rfl⟩ := matched
    rcases Nat.le_total k j with le | le
    · rw [Nat.max_eq_right le]
      exact ih (fun m member => fits m (List.mem_cons_of_mem _ member)) j rest
    · rw [Nat.max_eq_left le]
      exact fits m List.mem_cons_self s k first

theorem foldl_init?_mem (better : Nat → Nat → Bool) (ns : List Nat) (sofar : Option Nat) (n : Nat)
    (found : ns.foldl (best.init? better) sofar = some n) : sofar = some n ∨ n ∈ ns := by
  induction ns generalizing sofar with
  | nil => exact .inl found
  | cons k ns ih =>
    rcases ih _ found with chosen | member
    · cases sofar with
      | none =>
        cases chosen
        exact .inr List.mem_cons_self
      | some m =>
        simp only [best.init?] at chosen
        split at chosen <;> cases chosen
        · exact .inr List.mem_cons_self
        · exact .inl rfl
    · exact .inr (List.mem_cons_of_mem _ member)

theorem best_fits (better : Nat → Nat → Bool) (fits : ∀ m ∈ ms, m.Fits) :
    (best better ms).Fits := by
  intro s n matched
  rcases foldl_init?_mem better _ none n matched with absurd | member
  · cases absurd
  · obtain ⟨m, isPart, matched⟩ := List.mem_filterMap.1 member
    exact fits m isPart s n matched

theorem repeatWhere_fits (test : Char → Bool) (n : Nat) : (repeatWhere test n).Fits := by
  intro s k matched
  induction n generalizing s k with
  | zero =>
    cases s <;> simp only [repeatWhere, Option.some.injEq] at matched <;> subst matched <;>
      exact .zero
  | succ n ih =>
    cases s with
    | nil => simp [repeatWhere] at matched
    | cons c s =>
      simp only [repeatWhere, Option.ite_none_right_eq_some, Option.map_eq_some_iff] at matched
      obtain ⟨-, j, rest, rfl⟩ := matched
      exact (ih s j rest).cons c

theorem isBoundary_size_of_prefix {p s : List Char} (begins : p <+: s) :
    IsBoundary s (size p) := by
  obtain ⟨r, rfl⟩ := begins
  exact ⟨p, r, rfl, rfl⟩

theorem spanWhere_fits (test : Char → Bool) (limit : Option Nat) (s : List Char) :
    IsBoundary s (spanWhere test limit s) := by
  cases limit with
  | none => exact isBoundary_size_of_prefix (List.takeWhile_prefix test)
  | some n =>
    exact isBoundary_size_of_prefix ((List.takeWhile_prefix test).trans (List.take_prefix n s))

theorem repeatedWhere_fits (test : Char → Bool) (min : Nat) (extra : Option Nat) :
    (repeatedWhere test min extra).Fits := by
  intro s n matched
  simp only [repeatedWhere, Option.bind_eq_bind, Option.bind_eq_some_iff, Option.some.injEq]
    at matched
  obtain ⟨head, -, rest, dropped, rfl⟩ := matched
  exact .after dropped (spanWhere_fits test extra rest)

theorem rounds_fits (n : Nat) {p s : List Char} {k : Nat}
    (matched : rounds m n (size p) s = some k) : IsBoundary (p ++ s) k := by
  induction n generalizing p s with
  | zero =>
    cases matched
    exact ⟨p, s, rfl, rfl⟩
  | succ n ih =>
    simp only [rounds, Option.bind_eq_bind, Option.bind_eq_some_iff] at matched
    obtain ⟨j, -, r, dropped, rest⟩ := matched
    obtain ⟨q, rfl, rfl⟩ := drop?_eq_some_iff.1 dropped
    rw [← size_append] at rest
    rw [← List.append_assoc]
    exact ih rest

theorem greedy_fits (fits : m.Fits) (room p s : List Char) :
    IsBoundary (p ++ s) (greedy m room (size p) s) := by
  -- `p` is what the rounds so far have read; a round that reads nothing is the last.
  induction room generalizing p s with
  | nil => exact ⟨p, s, rfl, rfl⟩
  | cons c room ih =>
    simp only [greedy]
    split
    case h_1 => exact ⟨p, s, rfl, rfl⟩
    case h_2 => exact ⟨p, s, rfl, rfl⟩
    case h_3 k matched =>
      split
      case h_1 => exact (fits s (k + 1) matched).append
      case h_2 r dropped =>
        obtain ⟨q, rfl, length⟩ := drop?_eq_some_iff.1 dropped
        rw [length, ← size_append, ← List.append_assoc]
        exact ih (p ++ q) r

theorem repeated_fits (fits : m.Fits) (min : Nat) (extra : Option Nat) :
    (repeated m min extra).Fits := by
  intro s n matched
  simp only [repeated, Option.bind_eq_bind, Option.bind_eq_some_iff, Option.some.injEq] at matched
  obtain ⟨head, -, rest, dropped, rfl⟩ := matched
  obtain ⟨p, rfl, rfl⟩ := drop?_eq_some_iff.1 dropped
  exact greedy_fits fits _ p rest

end Matcher

namespace Pattern

open Matcher

mutual

theorem run_fits : ∀ p : Pattern, (run p).Fits
  | atLeast n => firstChars_fits n
  | exactly n => by
    intro s k matched
    simp only [run, Option.ite_none_right_eq_some, Option.some.injEq] at matched
    obtain ⟨-, rfl⟩ := matched
    exact .of_size
  | char c => charWhere_fits _
  | inClass k => charWhere_fits k.test
  | escaped => escaped_fits
  | text t => text_fits t
  | textNoCase t => textNoCase_fits t
  | notText _ => except_fits
  | notTextNoCase _ => except_fits
  | regex x => x.fits
  | not p => fits_of_zero fun s n matched => by
    simp only [run, Option.ite_none_left_eq_some, Option.some.injEq] at matched
    exact matched.2.symm
  | peek p => fits_of_zero fun s n matched => by
    simp only [run, Option.map_eq_some_iff] at matched
    obtain ⟨-, -, rfl⟩ := matched
    rfl
  | optional p => by
    intro s n matched
    simp only [run, Option.some.injEq] at matched
    subst matched
    cases found : run p s with
    | none => exact .zero
    | some n => exact run_fits p s n found
  | any ps => any_fits (runs_fits ps)
  | seq ps => seq_fits (runs_fits ps)
  | all ps => all_fits (runs_fits ps)
  | longest ps => best_fits _ (runs_fits ps)
  | shortest ps => best_fits _ (runs_fits ps)
  | ifElse cond yes no => by
    intro s n matched
    simp only [run] at matched
    split at matched
    case h_1 k _ =>
      obtain ⟨j, rest, rfl⟩ := Option.map_eq_some_iff.1 matched
      exact after_fits (run_fits yes) rest
    case h_2 => exact run_fits no s n matched
  | timesClass n k => repeatWhere_fits k.test n
  | times n p => fun s k matched => rounds_fits n (p := []) matched
  | manyClass min k => repeatedWhere_fits k.test min none
  | many min p => repeated_fits (run_fits p) min none
  | boundedClass min max k => repeatedWhere_fits k.test min (some (max - min))
  | bounded min max p => repeated_fits (run_fits p) min (some (max - min))
  | never => fun _ _ matched => by cases matched
  | always => fits_of_zero fun s n matched => (Option.some.inj matched).symm

theorem runs_fits : ∀ ps : List Pattern, ∀ m ∈ runs ps, m.Fits
  | [], _, member => by cases member
  | p :: ps, m, member => by
    rcases List.mem_cons.1 member with rfl | member
    · exact run_fits p
    · exact runs_fits ps m member

end

end Pattern

end Descent
