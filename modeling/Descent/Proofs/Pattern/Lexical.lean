import Descent.Proofs.Pattern.Longest

set_option autoImplicit false

namespace Descent

open scoped Computability

namespace Lexical

def one (p : Char → Prop) : Language Char := {t | ∃ c, t = [c] ∧ p c}

def char (c : Char) : Language Char := one (· = c)

def range (lo hi : Char) : Language Char := one fun c => lo ≤ c ∧ c ≤ hi

def digit : Language Char := range '0' '9'

def letter : Language Char := range 'a' 'z' + range 'A' 'Z'

def wordStart : Language Char := letter + char '_'

def wordPart : Language Char := digit + letter + char '_'

def hexDigit : Language Char := digit + range 'a' 'f' + range 'A' 'F'

def word : Language Char := wordStart * wordPart∗

def integer : Language Char := digit * digit∗

def octInteger : Language Char := char '0' * (range '0' '7')∗

def decInteger : Language Char := range '1' '9' * digit∗

def hexInteger : Language Char := char '0' * (char 'x' + char 'X') * (hexDigit * hexDigit∗)

def decimal : Language Char := integer * (1 + char '.' * digit∗) + char '.' * integer

def exponent : Language Char := (char 'e' + char 'E') * (1 + char '-') * integer

def slashedItem : Language Char :=
  char '\\' * one (fun _ => True) + one (fun c => c ∉ ['/', '\\', '\n', '\r'])

def slashed : Language Char := char '/' * slashedItem∗ * char '/'

variable {p q : Char → Prop} {L L' : Language Char} {c : Char} {t : List Char}

theorem mem_one : t ∈ one p ↔ ∃ c, t = [c] ∧ p c := Iff.rfl

theorem one_add_one (p q : Char → Prop) : one p + one q = one fun c => p c ∨ q c := by
  ext t
  simp only [Language.mem_add, mem_one, and_or_left, exists_or]

theorem one_congr (same : ∀ c, p c ↔ q c) : one p = one q :=
  congrArg one (funext fun c => propext (same c))

theorem prefixFree_one (p : Char → Prop) : PrefixFree (one p) :=
  .of_length (n := 1) fun _ ⟨_, single, _⟩ => single ▸ rfl

theorem mem_one_mul : t ∈ one p * L ↔ ∃ c u, t = c :: u ∧ p c ∧ u ∈ L := by
  rw [Language.mem_mul]
  constructor
  · rintro ⟨_, ⟨c, rfl, holds⟩, u, member, rfl⟩
    exact ⟨c, u, rfl, holds, member⟩
  · rintro ⟨c, u, rfl, holds, member⟩
    exact ⟨[c], ⟨c, rfl, holds⟩, u, member, rfl⟩

theorem mem_kstar_one : t ∈ (one p)∗ ↔ ∀ c ∈ t, p c := by
  induction t with
  | nil => simp [Language.nil_mem_kstar]
  | cons c t ih =>
    rw [← Language.one_add_self_mul_kstar_eq_kstar, Language.mem_add, mem_one_mul]
    simp [ih]

theorem mem_some_one : t ∈ one p * (one p)∗ ↔ 1 ≤ t.length ∧ ∀ c ∈ t, p c := by
  simp only [mem_one_mul, mem_kstar_one]
  cases t <;> simp

theorem digit_eq : digit = one (CharClass.digit.test · = true) :=
  one_congr fun c => by simp [CharClass.digit, CharClass.relabel, CharClass.range]

theorem range_eq (lo hi : Char) : range lo hi = one ((CharClass.range lo hi).test · = true) :=
  one_congr fun c => by simp [CharClass.range]

theorem wordStart_eq : wordStart = one (CharClass.wordStart.test · = true) := by
  rw [wordStart, letter, range, range, char, one_add_one, one_add_one]
  refine one_congr fun c => ?_
  rw [CharClass.test_wordStart]
  grind

theorem wordPart_eq : wordPart = one (CharClass.wordPart.test · = true) := by
  rw [wordPart, digit, letter, range, range, range, char, one_add_one, one_add_one, one_add_one]
  refine one_congr fun c => ?_
  rw [CharClass.test_wordPart]
  grind

theorem hexDigit_eq : hexDigit = one (CharClass.hexDigit.test · = true) := by
  rw [hexDigit, digit, range, range, range, one_add_one, one_add_one]
  refine one_congr fun c => ?_
  simp [CharClass.hexDigit, Char.isDigit, Char.le_def]

theorem slashedItem_eq : slashedItem = char '\\' * one (fun _ => True) +
    one ((CharClass.noneOf ['/', '\n', '\r', '\\']).test · = true) := by
  rw [slashedItem]
  congr 1
  refine one_congr fun c => ?_
  simp [CharClass.noneOf]
  grind

theorem mem_integer : t ∈ integer ↔ 1 ≤ t.length ∧ ∀ c ∈ t, CharClass.digit.test c = true := by
  rw [integer, digit_eq, mem_some_one]

theorem prefixFree_mark : PrefixFree (char '0' * (char 'x' + char 'X')) := by
  refine .of_length (n := 2) fun t member => ?_
  rw [char, char, char, one_add_one] at member
  obtain ⟨c, u, rfl, -, d, rfl, -⟩ := mem_one_mul.1 member
  rfl

theorem prefixFree_slashedItem : PrefixFree slashedItem := by
  rintro t u (escaped | ⟨c, rfl, plain⟩) (escaped' | ⟨d, rfl, -⟩) begins
  · obtain ⟨c, _, rfl, rfl, d, rfl, -⟩ := mem_one_mul.1 escaped
    obtain ⟨c, _, rfl, rfl, d', rfl, -⟩ := mem_one_mul.1 escaped'
    exact begins.eq_of_length rfl
  · obtain ⟨c, _, rfl, rfl, d, rfl, -⟩ := mem_one_mul.1 escaped
    exact absurd begins.length_le (by simp)
  · obtain ⟨_, _, rfl, rfl, -⟩ := mem_one_mul.1 escaped'
    obtain ⟨rfl, -⟩ := List.cons_prefix_cons.1 begins
    exact absurd plain (by simp)
  · exact begins.eq_of_length rfl

theorem apart_slashedItems : Apart slashedItem∗ (char '/') := by
  refine prefixFree_slashedItem.kstar_apart ?_
  rintro c v w (escaped | ⟨d, single, plain⟩) ⟨e, slash, rfl⟩
  · obtain ⟨d, _, same, rfl, -⟩ := mem_one_mul.1 escaped
    cases same
    cases slash
  · cases slash
    cases single
    exact absurd plain (by simp)

theorem apart_integer : Apart integer (1 + char '.' * L) := by
  rintro t c v w - longer (none | point)
  · cases none
  · obtain ⟨c, w, same, rfl, -⟩ := mem_one_mul.1 point
    obtain ⟨rfl, rfl⟩ := List.cons.inj same
    exact absurd ((mem_integer.1 longer).2 '.' (by simp)) (by decide)

theorem apart_minus : Apart (1 + char '-') integer := by
  rintro t c v w - (none | ⟨d, single, rfl⟩) next
  · have empty : t ++ c :: v = [] := none
    simp at empty
  · obtain ⟨-, rfl, -⟩ : t = [] ∧ c = '-' ∧ v = [] := by
      simpa [List.append_eq_cons_iff] using single
    exact absurd ((mem_integer.1 next).2 '-' (by simp)) (by decide)

theorem decimals_apart {u : List Char} (left : t ∈ integer * L) (right : u ∈ char '.' * L') :
    ¬ t <+: u := by
  intro begins
  obtain ⟨digits, member, w, -, rfl⟩ := Language.mem_mul.1 left
  obtain ⟨_, u, rfl, rfl, -⟩ := mem_one_mul.1 right
  obtain ⟨some, all⟩ := mem_integer.1 member
  obtain ⟨c, digits, rfl⟩ := List.exists_cons_of_length_pos some
  obtain ⟨rfl, -⟩ := List.cons_prefix_cons.1 begins
  exact absurd (all '.' List.mem_cons_self) (by decide)

end Lexical

namespace Matcher

open Lexical

variable {test : Char → Bool}

theorem charWhere_munches (test : Char → Bool) :
    (charWhere test).Munches (one (test · = true)) := by
  intro s
  cases s with
  | nil => exact .inl ⟨rfl, fun t begins ⟨c, single, _⟩ => by simp [single] at begins⟩
  | cons c s =>
    by_cases passes : test c = true
    · refine .inr ⟨[c], s, rfl, by simp [charWhere, passes], ⟨c, rfl, passes⟩, ?_⟩
      rintro u begins ⟨d, rfl, -⟩
      exact List.prefix_of_prefix_length_le begins (List.prefix_append [c] s) (Nat.le_refl 1)
    · refine .inl ⟨by simp [charWhere, passes], ?_⟩
      rintro u begins ⟨d, rfl, passes'⟩
      obtain ⟨rfl, -⟩ := List.cons_prefix_cons.1 begins
      exact passes passes'

theorem text_munches {u : List Char} {L : Language Char} (members : ∀ t, t ∈ L ↔ t = u) :
    (text u).Munches L := by
  intro s
  by_cases begins : u <+: s
  · obtain ⟨r, rfl⟩ := begins
    refine .inr ⟨u, r, rfl, by simp [text], (members u).2 rfl, fun t _ member => ?_⟩
    rw [(members t).1 member]
  · refine .inl ⟨by simp [text, begins], fun t begins' member => ?_⟩
    rw [(members t).1 member] at begins'
    exact begins begins'

theorem repeatedWhere_munches {min : Nat} {L : Language Char}
    (members : ∀ t, t ∈ L ↔ min ≤ t.length ∧ ∀ c ∈ t, test c = true) :
    (repeatedWhere test min none).Munches L := by
  intro s
  have passes : ∀ c ∈ s.takeWhile test, test c = true := List.all_eq_true.1 List.all_takeWhile
  have longest (u : List Char) (begins : u <+: s) (member : u ∈ L) : u <+: s.takeWhile test := by
    obtain ⟨r, rfl⟩ := begins
    rw [List.takeWhile_append_of_pos ((members u).1 member).2]
    exact List.prefix_append _ _
  rw [repeatedWhere_eq]
  by_cases enough : min ≤ (s.takeWhile test).length
  · exact .inr ⟨s.takeWhile test, s.dropWhile test, List.takeWhile_append_dropWhile.symm,
      if_pos enough, (members _).2 ⟨enough, passes⟩, longest⟩
  · refine .inl ⟨if_neg enough, fun u begins member => enough ?_⟩
    exact ((members u).1 member).1.trans (longest u begins member).length_le

end Matcher

namespace Pattern

open Matcher Lexical

theorem inClass_munches (k : CharClass) : (inClass k).run.Munches (one (k.test · = true)) := by
  rw [run]
  exact charWhere_munches k.test

theorem char_munches (c : Char) : (char c).run.Munches (Lexical.char c) := by
  have same : Lexical.char c = one ((· == c) · = true) := one_congr fun d => by simp
  rw [run, same]
  exact charWhere_munches _

theorem manyOf_munches (k : CharClass) : (manyOf k).run.Munches (one (k.test · = true))∗ := by
  rw [manyOf, run]
  exact repeatedWhere_munches fun t => by simp [mem_kstar_one]

theorem someOf_munches (k : CharClass) :
    (atLeastOf 1 k).run.Munches (one (k.test · = true) * (one (k.test · = true))∗) := by
  rw [atLeastOf, run]
  exact repeatedWhere_munches fun t => mem_some_one

theorem optional_munches {p : Pattern} {L : Language Char} (munches : p.run.Munches L) :
    (optional p).run.Munches (1 + L) := by
  rw [run]
  exact munches.optional

theorem word_munches : word.run.Munches Lexical.word := by
  rw [word, andThen_run, Lexical.word, wordStart_eq, wordPart_eq]
  exact (inClass_munches _).andThen (manyOf_munches _) (prefixFree_one _).apart

theorem integer_munches : integer.run.Munches Lexical.integer := by
  rw [integer, Lexical.integer, digit_eq]
  exact someOf_munches _

theorem octInteger_munches : octInteger.run.Munches Lexical.octInteger := by
  rw [octInteger, andThen_run, Lexical.octInteger, range_eq]
  exact (char_munches '0').andThen (manyOf_munches _) (prefixFree_one _).apart

theorem decInteger_munches : decInteger.run.Munches Lexical.decInteger := by
  rw [decInteger, andThen_run, Lexical.decInteger, range_eq, digit_eq]
  exact (inClass_munches _).andThen (manyOf_munches _) (prefixFree_one _).apart

theorem hexInteger_munches : hexInteger.run.Munches Lexical.hexInteger := by
  have mark : (orElse (string "0x") (string "0X")).run.Munches
      (Lexical.char '0' * (Lexical.char 'x' + Lexical.char 'X')) := by
    have marked (c : Char) (t : List Char) :
        t ∈ Lexical.char '0' * Lexical.char c ↔ t = ['0', c] := by
      simp [mem_one_mul, Lexical.char, mem_one]
    rw [orElse_run, string, string, run, run, mul_add]
    refine (text_munches (marked 'x')).any (text_munches (marked 'X')) ?_
    intro t u lower upper begins
    rw [(marked 'x' t).1 lower, (marked 'X' u).1 upper] at begins
    exact absurd begins (by decide)
  rw [hexInteger, andThen_run, Lexical.hexInteger, hexDigit_eq]
  exact mark.andThen (someOf_munches _) prefixFree_mark.apart

theorem decimal_munches : decimal.run.Munches Lexical.decimal := by
  have fraction : (andThen (char '.') (manyOf CharClass.digit)).run.Munches
      (Lexical.char '.' * digit∗) := by
    rw [andThen_run, digit_eq]
    exact (char_munches '.').andThen (manyOf_munches _) (prefixFree_one _).apart
  have left := integer_munches.andThen (optional_munches fraction) apart_integer
  have right := (char_munches '.').andThen integer_munches (prefixFree_one _).apart
  rw [decimal, orElse_run, decimalLeft, decimalRight, andThen_run, andThen_run]
  exact left.any right fun t u member member' begins =>
    absurd begins (decimals_apart member member')

theorem exponent_munches : exponent.run.Munches Lexical.exponent := by
  have mark : Lexical.char 'e' + Lexical.char 'E' =
      one ((CharClass.oneOf ['e', 'E']).test · = true) := by
    rw [Lexical.char, Lexical.char, one_add_one]
    exact one_congr fun c => by simp [CharClass.oneOf]
  have digits := (optional_munches (char_munches '-')).andThen integer_munches apart_minus
  rw [exponent, sequence_cons_run, sequence_cons_run, Lexical.exponent, mul_assoc, mark]
  exact (inClass_munches _).andThen digits (prefixFree_one _).apart

theorem slashed_munches : slashed.run.Munches Lexical.slashed := by
  have any : (atLeast 1).run.Munches (one fun _ => True) := by
    have same : (atLeast 1).run = charWhere fun _ => true := by
      funext s
      cases s <;> simp [run, firstChars, charWhere]
    rw [same]
    simpa using charWhere_munches fun _ => true
  have escaped := (char_munches '\\').andThen any (prefixFree_one _).apart
  have item : (orElse (andThen (char '\\') (atLeast 1))
      (noneOf ['/', '\n', '\r', '\\'])).run.Munches slashedItem := by
    rw [orElse_run, andThen_run, slashedItem_eq]
    refine escaped.any (inClass_munches _) ?_
    rintro t u two ⟨c, rfl, -⟩ begins
    obtain ⟨_, _, rfl, -, d, rfl, -⟩ := mem_one_mul.1 two
    exact absurd begins.length_le (by simp)
  have items : (many 0 (orElse (andThen (char '\\') (atLeast 1))
      (noneOf ['/', '\n', '\r', '\\']))).run.Munches slashedItem∗ := by
    rw [run]
    exact item.repeated prefixFree_slashedItem
  have closed := items.andThen (char_munches '/') apart_slashedItems
  rw [slashed, sequence_cons_run, sequence_cons_run, Lexical.slashed, mul_assoc]
  exact (char_munches '/').andThen closed (prefixFree_one _).apart

/-- Each pattern gives the length of the longest text of its language that is a prefix of the given
one, and nothing if there is none. -/
theorem lexical_forms_find_longest :
    word.run.FindsLongest Lexical.word ∧ integer.run.FindsLongest Lexical.integer ∧
      octInteger.run.FindsLongest Lexical.octInteger ∧
      decInteger.run.FindsLongest Lexical.decInteger ∧
      hexInteger.run.FindsLongest Lexical.hexInteger ∧
      decimal.run.FindsLongest Lexical.decimal ∧ exponent.run.FindsLongest Lexical.exponent ∧
      slashed.run.FindsLongest Lexical.slashed :=
  ⟨word_munches.findsLongest, integer_munches.findsLongest, octInteger_munches.findsLongest,
    decInteger_munches.findsLongest, hexInteger_munches.findsLongest,
    decimal_munches.findsLongest, exponent_munches.findsLongest, slashed_munches.findsLongest⟩

end Pattern

end Descent
