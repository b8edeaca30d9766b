import Descent.Proofs.Pattern.Language
import Descent.Proofs.Pattern.Repetition
import Mathlib.Computability.Language

set_option autoImplicit false

namespace Descent

open Text (size)
open scoped Computability

variable {L L' : Language Char}

def Apart (L L' : Language Char) : Prop :=
  ∀ t c v w, t ∈ L → t ++ c :: v ∈ L → c :: w ∉ L'

theorem Apart.eq_or_nil (apart : Apart L L') {t u w r : List Char} (longest : t ∈ L)
    (shorter : u ∈ L) (begins : u <+: t) (next : w ∈ L') (inside : u ++ w <+: t ++ r) :
    u = t ∨ w = [] := by
  obtain ⟨v, rfl⟩ := begins
  rw [List.append_assoc, List.prefix_append_right_inj] at inside
  cases v with
  | nil => exact .inl (List.append_nil u).symm
  | cons c v =>
    cases w with
    | nil => exact .inr rfl
    | cons d w =>
      obtain ⟨rfl, -⟩ := List.cons_prefix_cons.1 inside
      exact absurd next (apart u d v w shorter longest)

def PrefixFree (L : Language Char) : Prop := ∀ t u, t ∈ L → u ∈ L → t <+: u → t = u

theorem cons_mem_kstar {c : Char} {t : List Char} (member : c :: t ∈ L∗) :
    ∃ u r, t = u ++ r ∧ c :: u ∈ L ∧ r ∈ L∗ := by
  obtain ⟨parts, whole, all⟩ := Language.mem_kstar_iff_exists_nonempty.1 member
  cases parts with
  | nil => cases whole
  | cons p parts =>
    obtain ⟨first, some⟩ := all p List.mem_cons_self
    cases p with
    | nil => exact absurd rfl some
    | cons d u =>
      obtain ⟨rfl, rfl⟩ := List.cons.inj whole
      exact ⟨u, parts.flatten, rfl, first,
        Language.join_mem_kstar fun q later => (all q (List.mem_cons_of_mem _ later)).1⟩

theorem append_mem_kstar {t r : List Char} (first : t ∈ L) (others : r ∈ L∗) : t ++ r ∈ L∗ := by
  rw [← Language.one_add_self_mul_kstar_eq_kstar]
  exact .inr (Language.append_mem_mul first others)

namespace PrefixFree

theorem of_length {n : Nat} (length : ∀ t ∈ L, t.length = n) : PrefixFree L :=
  fun t u member member' begins =>
    begins.eq_of_length ((length t member).trans (length u member').symm)

theorem apart (free : PrefixFree L) : Apart L L' := by
  intro t c v w member longer
  simpa using free t _ member longer (List.prefix_append ..)

theorem rest_mem_kstar (free : PrefixFree L) {t r : List Char} (first : t ∈ L) (some : t ≠ [])
    (member : t ++ r ∈ L∗) : r ∈ L∗ := by
  obtain ⟨c, t, rfl⟩ := List.exists_cons_of_ne_nil some
  obtain ⟨u, r', same, first', others⟩ := cons_mem_kstar member
  -- The first item of the whole text is the given one, as neither goes on the other.
  have whole : (c :: t) ++ r = (c :: u) ++ r' := congrArg (c :: ·) same
  have equal : c :: t = c :: u := by
    rcases List.prefix_or_prefix_of_prefix ⟨r, whole⟩ (List.prefix_append (c :: u) r') with
      begins | begins
    · exact free _ _ first first' begins
    · exact (free _ _ first' first begins).symm
  rw [equal] at whole
  rwa [List.append_cancel_left whole]

theorem kstar_apart (free : PrefixFree L) (starts : ∀ c v w, c :: v ∈ L → c :: w ∉ L') :
    Apart L∗ L' := by
  intro t c v w member longer
  obtain ⟨parts, rfl, all⟩ := Language.mem_kstar_iff_exists_nonempty.1 member
  clear member
  induction parts with
  | nil =>
    obtain ⟨u, -, -, first, -⟩ := cons_mem_kstar longer
    exact starts c u w first
  | cons p parts ih =>
    obtain ⟨first, some⟩ := all p List.mem_cons_self
    rw [List.flatten_cons, List.append_assoc] at longer
    exact ih (fun q later => all q (List.mem_cons_of_mem _ later))
      (free.rest_mem_kstar first some longer)

end PrefixFree

namespace Matcher

variable {m m' : Matcher}

/-- The matcher gives the length of the longest text of the language that is a prefix, and nothing
where there is none. -/
def FindsLongest (m : Matcher) (L : Language Char) : Prop :=
  ∀ s,
    (∀ n, m s = some n ↔
      ∃ t, t <+: s ∧ t ∈ L ∧ n = size t ∧ ∀ u, u <+: s → u ∈ L → u.length ≤ t.length) ∧
    (m s = none ↔ ∀ t, t <+: s → t ∉ L)

/-- Either no prefix is in the language, or the matcher takes one of which the others are
prefixes. -/
def Munches (m : Matcher) (L : Language Char) : Prop :=
  ∀ s, (m s = none ∧ ∀ t, t <+: s → t ∉ L) ∨
    ∃ t r, s = t ++ r ∧ m s = some (size t) ∧ t ∈ L ∧ ∀ u, u <+: s → u ∈ L → u <+: t

namespace Munches

theorem fits (munches : m.Munches L) : m.Fits := by
  intro s n matched
  rcases munches s with ⟨missed, -⟩ | ⟨t, r, rfl, found, -⟩
  · cases missed.symm.trans matched
  · exact ⟨t, r, rfl, Option.some.inj (matched.symm.trans found)⟩

theorem findsLongest (munches : m.Munches L) : m.FindsLongest L := by
  intro s
  rcases munches s with ⟨missed, nowhere⟩ | ⟨t, r, rfl, found, member, longest⟩
  · refine ⟨fun n => ⟨fun matched => ?_, fun ⟨t, begins, member, _⟩ => ?_⟩, fun _ => nowhere,
      fun _ => missed⟩
    · cases missed.symm.trans matched
    · exact absurd member (nowhere t begins)
  · have begins : t <+: t ++ r := List.prefix_append t r
    refine ⟨fun n => ⟨fun matched => ?_, fun ⟨u, begins', member', length, longest'⟩ => ?_⟩,
      fun missed => ?_, fun nowhere => absurd member (nowhere t begins)⟩
    · exact ⟨t, begins, member, Option.some.inj (matched.symm.trans found),
        fun u begins' member' => (longest u begins' member').length_le⟩
    · have shorter := longest u begins' member'
      obtain rfl := shorter.eq_of_length_le (longest' t begins member)
      rw [found, length]
    · cases missed.symm.trans found

theorem andThen (first : m.Munches L) (second : m'.Munches L') (apart : Apart L L') :
    (m.andThen m').Munches (L * L') := by
  intro s
  rcases first s with ⟨missed, nowhere⟩ | ⟨t, r, rfl, found, member, longest⟩
  · refine .inl ⟨by rw [Matcher.andThen, missed, Option.bind_none], fun x begins both => ?_⟩
    obtain ⟨u, here, w, -, rfl⟩ := Language.mem_mul.1 both
    exact nowhere u ((List.prefix_append u w).trans begins) here
  · have goes : m.andThen m' (t ++ r) = (m' r).map (size t + ·) := by
      rw [Matcher.andThen, found, Option.bind_some, after, Text.drop?_size_append,
        Option.bind_some]
    have split {x : List Char} (begins : x <+: t ++ r) (both : x ∈ L * L') :
        (∃ w, x = t ++ w ∧ w ∈ L' ∧ w <+: r) ∨ x <+: t ∧ [] ∈ L' := by
      obtain ⟨u, here, w, there, rfl⟩ := Language.mem_mul.1 both
      have shorter := longest u ((List.prefix_append u w).trans begins) here
      rcases apart.eq_or_nil member here shorter there begins with rfl | rfl
      · exact .inl ⟨w, rfl, there, (List.prefix_append_right_inj u).1 begins⟩
      · exact .inr ⟨by rwa [List.append_nil], there⟩
    rcases second r with ⟨missed, nowhere⟩ | ⟨t', r', rfl, found', member', longest'⟩
    · refine .inl ⟨by rw [goes, missed, Option.map_none], fun x begins both => ?_⟩
      rcases split begins both with ⟨w, -, there, begins'⟩ | ⟨-, there⟩
      · exact nowhere w begins' there
      · exact nowhere [] List.nil_prefix there
    · refine .inr ⟨t ++ t', r', (List.append_assoc ..).symm, ?_,
        Language.append_mem_mul member member', fun x begins both => ?_⟩
      · rw [goes, found', Option.map_some, Text.size_append]
      · rcases split begins both with ⟨w, rfl, there, begins'⟩ | ⟨shorter, -⟩
        · exact (List.prefix_append_right_inj t).2 (longest' w begins' there)
        · exact shorter.trans (List.prefix_append t t')

theorem any (first : m.Munches L) (second : m'.Munches L')
    (apart : ∀ t u, t ∈ L → u ∈ L' → t <+: u → u = t) :
    (Matcher.any [m, m']).Munches (L + L') := by
  intro s
  rcases first s with ⟨missed, nowhere⟩ | ⟨t, r, rfl, found, member, longest⟩
  · have goes : Matcher.any [m, m'] s = m' s := by
      cases other : m' s <;> simp [Matcher.any, missed, other]
    rcases second s with ⟨missed', nowhere'⟩ | ⟨t, r, rfl, found, member, longest⟩
    · refine .inl ⟨goes.trans missed', fun u begins either => ?_⟩
      exact either.elim (nowhere u begins) (nowhere' u begins)
    · refine .inr ⟨t, r, rfl, goes.trans found, .inr member, fun u begins either => ?_⟩
      rcases either with here | there
      · exact absurd here (nowhere u begins)
      · exact longest u begins there
  · refine .inr ⟨t, r, rfl, by simp [Matcher.any, found], .inl member, fun u begins either => ?_⟩
    rcases either with here | there
    · exact longest u begins here
    · rcases List.prefix_or_prefix_of_prefix begins (List.prefix_append t r) with
        shorter | longer
      · exact shorter
      · rw [apart t u member there longer]

theorem optional (munches : m.Munches L) :
    Matcher.Munches (fun s => some ((m s).getD 0)) (1 + L) := by
  intro s
  rcases munches s with ⟨missed, nowhere⟩ | ⟨t, r, rfl, found, member, longest⟩
  · refine .inr ⟨[], s, rfl, by simp [missed], .inl rfl, fun u begins either => ?_⟩
    rcases either with rfl | here
    · exact List.nil_prefix
    · exact absurd here (nowhere u begins)
  · refine .inr ⟨t, r, rfl, by simp [found], .inr member, fun u begins either => ?_⟩
    rcases either with rfl | here
    · exact List.nil_prefix
    · exact longest u begins here

theorem repeated (munches : m.Munches L) (free : PrefixFree L) :
    (Matcher.repeated m 0 none).Munches L∗ := by
  -- It takes as many as there are, so it is enough to look at the count.
  suffices counted : ∀ s, ∃ t r, s = t ++ r ∧ upTo m none s = size t ∧ t ∈ L∗ ∧
      ∀ u, u <+: s → u ∈ L∗ → u <+: t by
    intro s
    obtain ⟨t, r, same, count, member, longest⟩ := counted s
    refine .inr ⟨t, r, same, ?_, member, longest⟩
    rw [repeated_open, count]
  refine upTo_rounds munches.fits (fun s n => ∃ t r, s = t ++ r ∧ n = size t ∧ t ∈ L∗ ∧
    ∀ u, u <+: s → u ∈ L∗ → u <+: t) ?_ ?_
  · intro s ends
    have nowhere : ∀ t, t <+: s → t ∈ L → t = [] := by
      intro t begins here
      rcases munches s with ⟨-, nowhere⟩ | ⟨t', r, rfl, found, -, longest⟩
      · exact absurd here (nowhere t begins)
      · have shorter := longest t begins here
        by_contra some
        have longer : t' ≠ [] := fun empty => some (List.prefix_nil.1 (empty ▸ shorter))
        have positive := Text.size_pos longer
        simp only [found, reduceCtorEq, Option.some.injEq, false_or] at ends
        omega
    refine ⟨[], s, rfl, rfl, Language.nil_mem_kstar L, fun u begins member => ?_⟩
    cases u with
    | nil => exact List.prefix_refl []
    | cons c u =>
      obtain ⟨v, w, rfl, first, -⟩ := cons_mem_kstar member
      cases nowhere (c :: v) ((List.prefix_append (c :: v) w).trans begins) first
  · rintro t s some round ⟨t', r', rfl, count, member', longest'⟩
    rcases munches (t ++ (t' ++ r')) with ⟨missed, -⟩ | ⟨q, r, same, found, member, longest⟩
    · cases missed.symm.trans round
    · obtain rfl : t = q := Text.eq_of_append same (Option.some.inj (round.symm.trans found))
      refine ⟨t ++ t', r', (List.append_assoc ..).symm, ?_, append_mem_kstar member member',
        fun u begins both => ?_⟩
      · rw [count, Text.size_append]
      · cases u with
        | nil => exact List.nil_prefix
        | cons c u =>
          obtain ⟨v, w, rfl, first, others⟩ := cons_mem_kstar both
          have shorter := longest _ ((List.prefix_append (c :: v) w).trans begins) first
          obtain rfl := free _ _ first member shorter
          have begins' : w <+: t' ++ r' := (List.prefix_append_right_inj (c :: v)).1 begins
          exact (List.prefix_append_right_inj (c :: v)).2 (longest' w begins' others)

end Munches

end Matcher

end Descent
