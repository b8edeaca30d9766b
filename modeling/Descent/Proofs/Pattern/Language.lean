import Descent.Pattern.Lexical
import Descent.Proofs.Pattern.Boundary

set_option autoImplicit false

namespace Descent

open Text (size)

namespace Matcher

def andThen (m m' : Matcher) : Matcher := fun s =>
  (m s).bind fun n => (m'.after n s).map (n + ·)

/-- `m` matches the first of two texts, with the second after it, where they are related. -/
def Recognizes (m : Matcher) (related : List Char → List Char → Prop) : Prop :=
  ∀ s n, m s = some n ↔ ∃ t r, s = t ++ r ∧ n = size t ∧ related t r

variable {m m' : Matcher} {related related' : List Char → List Char → Prop}

theorem Fits.recognizes (fits : m.Fits) : m.Recognizes fun t r => m (t ++ r) = some (size t) := by
  intro s n
  constructor
  · intro matched
    obtain ⟨t, r, rfl, rfl⟩ := fits s n matched
    exact ⟨t, r, rfl, rfl, matched⟩
  · rintro ⟨t, r, rfl, rfl, matched⟩
    exact matched

namespace Recognizes

theorem fits (recognizes : m.Recognizes related) : m.Fits := by
  intro s n matched
  obtain ⟨t, r, rfl, rfl, -⟩ := (recognizes s n).1 matched
  exact ⟨t, r, rfl, rfl⟩

theorem iff_related (recognizes : m.Recognizes related) {t r : List Char} :
    m (t ++ r) = some (size t) ↔ related t r := by
  rw [recognizes]
  constructor
  · rintro ⟨t', r', same, length, both⟩
    obtain rfl := Text.eq_of_append same length
    exact List.append_cancel_left same ▸ both
  · intro both
    exact ⟨t, r, rfl, rfl, both⟩

theorem unique (recognizes : m.Recognizes related) {t r t' r' : List Char}
    (both : related t r) (both' : related t' r') (same : t ++ r = t' ++ r') : t = t' := by
  have lengths := (recognizes.iff_related.2 both).symm.trans
    ((congrArg m same).trans (recognizes.iff_related.2 both'))
  exact Text.eq_of_append same (Option.some.inj lengths)

theorem congr (recognizes : m.Recognizes related)
    (same : ∀ t r, related t r ↔ related' t r) : m.Recognizes related' := by
  intro s n
  simp only [recognizes s n, same]

theorem andThen (first : m.Recognizes related) (second : m'.Recognizes related') :
    (m.andThen m').Recognizes fun t r =>
      ∃ t₁ t₂, t = t₁ ++ t₂ ∧ related t₁ (t₂ ++ r) ∧ related' t₂ r := by
  intro s n
  constructor
  · intro matched
    obtain ⟨k, head, rest⟩ := Option.bind_eq_some_iff.1 matched
    obtain ⟨t₁, r, rfl, rfl, both⟩ := (first s k).1 head
    rw [after, Text.drop?_size_append, Option.bind_some] at rest
    obtain ⟨k, tail, rfl⟩ := Option.map_eq_some_iff.1 rest
    obtain ⟨t₂, r, rfl, rfl, both'⟩ := (second r k).1 tail
    exact ⟨t₁ ++ t₂, r, (List.append_assoc ..).symm, (Text.size_append ..).symm,
      t₁, t₂, rfl, both, both'⟩
  · rintro ⟨_, r, rfl, rfl, t₁, t₂, rfl, both, both'⟩
    have head := first.iff_related.2 both
    have tail := second.iff_related.2 both'
    simp [Matcher.andThen, after, head, tail, Text.drop?_size_append]

theorem any (first : m.Recognizes related) (second : m'.Recognizes related') :
    (Matcher.any [m, m']).Recognizes fun t r =>
      related t r ∨ m (t ++ r) = none ∧ related' t r := by
  intro s n
  cases matched : m s with
  | some k =>
    simp only [Matcher.any, matched]
    constructor
    · intro same
      obtain ⟨t, r, rfl, rfl, both⟩ := (first s n).1 (matched.trans same)
      exact ⟨t, r, rfl, rfl, .inl both⟩
    · rintro ⟨t, r, rfl, rfl, both | ⟨misses, -⟩⟩
      · exact matched.symm.trans (first.iff_related.2 both)
      · exact absurd (matched.symm.trans misses) (by simp)
  | none =>
    have same : Matcher.any [m, m'] s = m' s := by
      cases other : m' s <;> simp [Matcher.any, matched, other]
    rw [same, second]
    constructor
    · rintro ⟨t, r, rfl, rfl, both⟩
      exact ⟨t, r, rfl, rfl, .inr ⟨matched, both⟩⟩
    · rintro ⟨t, r, rfl, rfl, both | ⟨-, both⟩⟩
      · exact absurd (matched.symm.trans (first.iff_related.2 both)) (by simp)
      · exact ⟨t, r, rfl, rfl, both⟩

end Recognizes

theorem charWhere_recognizes (test : Char → Bool) :
    (charWhere test).Recognizes fun t _ => ∃ c, t = [c] ∧ test c = true := by
  intro s n
  constructor
  · intro matched
    cases s with
    | nil => cases matched
    | cons c s =>
      by_cases passes : test c = true
      · simp only [charWhere, passes, if_true, Option.some.injEq] at matched
        exact ⟨[c], s, rfl, matched ▸ rfl, c, rfl, passes⟩
      · simp [charWhere, passes] at matched
  · rintro ⟨_, r, rfl, rfl, c, rfl, passes⟩
    simp [charWhere, passes]

theorem text_recognizes (u : List Char) : (text u).Recognizes fun t _ => t = u := by
  intro s n
  constructor
  · intro matched
    simp only [text, Option.ite_none_right_eq_some, Option.some.injEq] at matched
    obtain ⟨begins, rfl⟩ := matched
    obtain ⟨r, rfl⟩ := List.isPrefixOf_iff_prefix.1 begins
    exact ⟨u, r, rfl, rfl, rfl⟩
  · rintro ⟨_, r, rfl, rfl, rfl⟩
    simp [text]

theorem text_eq_none {u s : List Char} : text u s = none ↔ ¬ u <+: s := by
  simp [text]

theorem escaped_recognizes : escaped.Recognizes fun t _ => ∃ c, t = ['\\', c] := by
  intro s n
  constructor
  · intro matched
    unfold escaped at matched
    split at matched
    · rename_i c r
      exact ⟨['\\', c], r, rfl, (Option.some.inj matched).symm, c, rfl⟩
    · cases matched
  · rintro ⟨_, r, rfl, rfl, c, rfl⟩
    rfl

theorem repeatedWhere_eq (test : Char → Bool) (min : Nat) (s : List Char) :
    repeatedWhere test min none s =
      if min ≤ (s.takeWhile test).length then some (size (s.takeWhile test)) else none := by
  induction min generalizing s with
  | zero => simp [repeatedWhere, repeatWhere, spanWhere]
  | succ min ih =>
    cases s with
    | nil => simp [repeatedWhere, repeatWhere]
    | cons c s =>
      by_cases passes : test c = true
      · have step : repeatedWhere test (min + 1) none (c :: s) =
            (repeatedWhere test min none s).map (c.utf8Size + ·) := by
          simp only [repeatedWhere, repeatWhere, passes, if_true, Option.bind_eq_bind]
          cases head : repeatWhere test min s with
          | none => rfl
          | some k =>
            obtain ⟨p, r, rfl, rfl⟩ := repeatWhere_fits test min s k head
            have more := Text.drop?_size_append (c :: p) r
            rw [Text.size_cons, List.cons_append] at more
            simp [more, Text.drop?_size_append, Nat.add_assoc]
        rw [step, ih]
        by_cases enough : min ≤ (s.takeWhile test).length <;> simp [passes, enough]
      · simp [repeatedWhere, repeatWhere, passes]

theorem repeatedWhere_recognizes (test : Char → Bool) (min : Nat) :
    (repeatedWhere test min none).Recognizes fun t r =>
      min ≤ t.length ∧ (∀ c ∈ t, test c = true) ∧ ∀ c ∈ r.head?, test c = false := by
  intro s n
  rw [repeatedWhere_eq]
  constructor
  · intro matched
    simp only [Option.ite_none_right_eq_some, Option.some.injEq] at matched
    refine ⟨s.takeWhile test, s.dropWhile test, List.takeWhile_append_dropWhile.symm,
      matched.2.symm, matched.1, List.all_eq_true.1 List.all_takeWhile, fun c stops => ?_⟩
    have fails := List.head?_dropWhile_not test s
    rw [Option.mem_def.1 stops] at fails
    simpa using fails
  · rintro ⟨t, r, rfl, rfl, enough, passes, stops⟩
    have taken : (t ++ r).takeWhile test = t := by
      rw [List.takeWhile_append_of_pos passes]
      cases r with
      | nil => simp
      | cons c r => simp [stops c rfl]
    simp [taken, enough]

theorem seq_cons (m : Matcher) (ms : List Matcher) : seq (m :: ms) = m.andThen (seq ms) := by
  funext s
  simp only [seq, Matcher.andThen, Option.bind_eq_bind, Option.map_eq_bind]
  rfl

theorem andThen_assoc (m : Matcher) {m' : Matcher} (fits : m'.Fits) (m'' : Matcher) :
    (m.andThen m').andThen m'' = m.andThen (m'.andThen m'') := by
  funext s
  cases first : m s with
  | none => simp [Matcher.andThen, first]
  | some k =>
    cases dropped : Text.drop? k s with
    | none => simp [Matcher.andThen, after, first, dropped]
    | some rest =>
      obtain ⟨p, rfl, rfl⟩ := Text.drop?_eq_some_iff.1 dropped
      cases second : m' rest with
      | none => simp [Matcher.andThen, after, first, dropped, second]
      | some k' =>
        obtain ⟨t, r, rfl, rfl⟩ := fits rest k' second
        have both := Text.drop?_size_append (p ++ t) r
        rw [Text.size_append, List.append_assoc] at both
        simp [Matcher.andThen, after, first, second, both, Text.drop?_size_append,
          Function.comp_def, Nat.add_assoc]

def Moves (m : Matcher) : Prop := ∀ s n, m s = some n → 0 < n

theorem Moves.nil (moves : m.Moves) (fits : m.Fits) : m [] = none := by
  cases matched : m [] with
  | none => rfl
  | some n => exact absurd (moves [] n matched) (Nat.not_lt.2 (fits [] n matched).le_size)

theorem Recognizes.moves (recognizes : m.Recognizes related)
    (some : ∀ t r, related t r → t ≠ []) : m.Moves := by
  intro s n matched
  obtain ⟨t, r, rfl, rfl, both⟩ := (recognizes s n).1 matched
  exact Text.size_pos (some t r both)

theorem charWhere_moves (test : Char → Bool) : (charWhere test).Moves :=
  (charWhere_recognizes test).moves fun _ _ ⟨c, single, _⟩ => single ▸ List.cons_ne_nil c []

theorem text_moves {u : List Char} (some : u ≠ []) : (text u).Moves :=
  (text_recognizes u).moves fun _ _ same => same ▸ some

theorem repeatedWhere_moves (test : Char → Bool) {min : Nat} (some : 0 < min) :
    (repeatedWhere test min none).Moves :=
  (repeatedWhere_recognizes test min).moves fun _ _ ⟨enough, _⟩ =>
    List.ne_nil_of_length_pos (Nat.lt_of_lt_of_le some enough)

theorem Moves.andThen (first : m.Moves) (m' : Matcher) : (m.andThen m').Moves := by
  intro s n matched
  obtain ⟨k, one, rest⟩ := Option.bind_eq_some_iff.1 matched
  obtain ⟨k', -, rfl⟩ := Option.map_eq_some_iff.1 rest
  exact Nat.add_pos_left (first s k one) k'

theorem Moves.any (first : m.Moves) (second : m'.Moves) : (Matcher.any [m, m']).Moves := by
  intro s n matched
  simp only [Matcher.any] at matched
  split at matched
  · exact first s n (by simpa using ‹m s = _›.trans matched)
  · split at matched
    · exact second s n (by simpa using ‹m' s = _›.trans matched)
    · cases matched

end Matcher

namespace Pattern

open Matcher

theorem anyOf_run (ps : List Pattern) : (anyOf ps).run = Matcher.any (runs ps) := by
  funext s
  unfold anyOf
  split
  · simp [run, runs, Matcher.any]
  · rename_i p
    cases matched : p.run s <;> simp [runs, Matcher.any, matched]
  · rw [run]

theorem sequence_run (ps : List Pattern) : (sequence ps).run = Matcher.seq (runs ps) := by
  funext s
  unfold sequence
  split
  · simp [run, runs, Matcher.seq]
  · rename_i p
    cases matched : p.run s with
    | none => simp [runs, Matcher.seq, matched]
    | some k =>
      obtain ⟨q, rest, rfl, rfl⟩ := p.run_fits s k matched
      simp [runs, Matcher.seq, matched, Matcher.after, Text.drop?_size_append]
  · rw [run]

theorem sequence_cons_run (p : Pattern) (ps : List Pattern) :
    (sequence (p :: ps)).run = p.run.andThen (sequence ps).run := by
  rw [sequence_run, sequence_run, runs, seq_cons]

theorem andThen_run (p q : Pattern) : (andThen p q).run = p.run.andThen q.run :=
  sequence_cons_run p [q]

theorem orElse_run (p q : Pattern) : (orElse p q).run = Matcher.any [p.run, q.run] :=
  anyOf_run [p, q]

theorem not_run (p : Pattern) : (Pattern.not p).run = fun s =>
    match (p.run s).map fun _ => 0 with
    | some k => (Matcher.after (fun _ => none) k s).map (k + ·)
    | none => some 0 := by
  funext s
  rw [run]
  cases matched : p.run s <;> simp [Matcher.after, matched]

theorem not_recognizes (p : Pattern) :
    (Pattern.not p).run.Recognizes fun t r => t = [] ∧ p.run r = none := by
  intro s n
  rw [run]
  constructor
  · intro matched
    cases found : p.run s with
    | some k => simp [found] at matched
    | none => exact ⟨[], s, rfl, by simpa [found, eq_comm] using matched, rfl, found⟩
  · rintro ⟨_, r, rfl, rfl, rfl, misses⟩
    simp [misses]

theorem word_moves : word.run.Moves := by
  rw [word, andThen_run]
  exact (charWhere_moves _).andThen _

theorem decimal_moves : decimal.run.Moves := by
  rw [decimal, orElse_run, decimalLeft, decimalRight, andThen_run, andThen_run]
  exact ((repeatedWhere_moves _ Nat.one_pos).andThen _).any ((charWhere_moves _).andThen _)

end Pattern

end Descent
