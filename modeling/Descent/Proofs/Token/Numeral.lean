import Descent.CharClass
import Descent.Proofs.Pattern.Language
import Descent.Token.Reader
import Mathlib.Data.Nat.Digits.Defs
import Mathlib.Tactic.Ring

set_option autoImplicit false

namespace Descent

open Text (size)

namespace TokenReader

def digit (radix : Nat) (c : Char) : Nat := (digit? radix c).getD 0

def number (radix : Nat) (ds : List Char) : Nat :=
  Nat.ofDigits radix (ds.reverse.map (digit radix))

@[simp] theorem number_nil (radix : Nat) : number radix [] = 0 := rfl

theorem number_cons (radix : Nat) (c : Char) (ds : List Char) :
    number radix (c :: ds) = digit radix c * radix ^ ds.length + number radix ds := by
  simp [number, Nat.ofDigits_append, Nat.mul_comm, Nat.add_comm]

theorem digits_eq {radix : Nat} (positive : 0 < radix) (text : String) {ds : List Char}
    (all : ∀ c ∈ ds, (digit? radix c).isSome) {n : Nat} (le : n ≤ longLimit) :
    digits radix text n ds =
      if n * radix ^ ds.length + number radix ds ≤ longLimit then
        .ok (n * radix ^ ds.length + number radix ds)
      else .error (.overflow text) := by
  induction ds generalizing n with
  | nil => simp [digits, le]
  | cons c ds ih =>
    obtain ⟨d, found⟩ := Option.isSome_iff_exists.1 (all c List.mem_cons_self)
    have same : digit radix c = d := by rw [digit, found, Option.getD_some]
    -- The digits so far, and those to come, weigh the same before and after the step.
    have whole : n * radix ^ (c :: ds).length + number radix (c :: ds) =
        (n * radix + d) * radix ^ ds.length + number radix ds := by
      rw [number_cons, same, List.length_cons, Nat.pow_succ']
      ring
    rw [whole]
    simp only [digits, found]
    by_cases large : longLimit < n * radix + d
    · have weight : n * radix + d ≤ (n * radix + d) * radix ^ ds.length :=
        Nat.le_mul_of_pos_right _ (Nat.pow_pos positive)
      rw [if_pos large, if_neg (by omega)]
    · rw [if_neg large]
      exact ih (fun c mem => all c (List.mem_cons_of_mem _ mem)) (by omega)

theorem long_eq {radix : Nat} (positive : 0 < radix) {ds : List Char}
    (all : ∀ c ∈ ds, (digit? radix c).isSome) :
    long radix ds =
      if number radix ds ≤ longLimit then .ok (.long (number radix ds))
      else .error (.overflow (String.ofList ds)) := by
  rw [long, digits_eq positive _ all (Nat.zero_le _), Nat.zero_mul, Nat.zero_add]
  by_cases fits : number radix ds ≤ longLimit
  · simp only [if_pos fits]
    rfl
  · simp only [if_neg fits]
    rfl

theorem le_iff_toNat_le (c d : Char) : c ≤ d ↔ c.toNat ≤ d.toNat := Iff.rfl

theorem isSome_digit? (radix : Nat) (c : Char) : (digit? radix c).isSome = true ↔
    (48 ≤ c.toNat ∧ c.toNat ≤ 57 ∧ c.toNat < radix + 48) ∨
      (97 ≤ c.toNat ∧ c.toNat ≤ 102 ∧ c.toNat < radix + 87) ∨
      (65 ≤ c.toNat ∧ c.toNat ≤ 70 ∧ c.toNat < radix + 55) := by
  simp only [digit?, le_iff_toNat_le, Char.reduceToNat]
  split
  · simp; omega
  split
  · simp; omega
  split
  · simp; omega
  · simp; omega

theorem isSome_digit?_ten (c : Char) : (digit? 10 c).isSome = CharClass.digit.test c := by
  rw [Bool.eq_iff_iff, isSome_digit?]
  simp [CharClass.digit, CharClass.relabel, CharClass.range, le_iff_toNat_le]
  omega

theorem isDigit_nonzero (c : Char) : (CharClass.range '1' '9').test c = true ↔
    c ≠ '0' ∧ (digit? 10 c).isSome = true := by
  rw [isSome_digit?, ne_eq, ← Char.toNat_inj]
  simp [CharClass.range, le_iff_toNat_le]
  omega

theorem isSome_digit?_eight (c : Char) :
    (digit? 8 c).isSome = (CharClass.range '0' '7').test c := by
  rw [Bool.eq_iff_iff, isSome_digit?]
  simp [CharClass.range, le_iff_toNat_le]
  omega

theorem isSome_digit?_sixteen (c : Char) :
    (digit? 16 c).isSome = CharClass.hexDigit.test c := by
  rw [Bool.eq_iff_iff, isSome_digit?]
  simp [CharClass.hexDigit, le_iff_toNat_le, Char.isDigit, UInt32.le_iff_toNat_le]
  omega

theorem wordPart_of_digit {radix : Nat} (c : Char) (digit : (digit? radix c).isSome) :
    CharClass.wordPart.test c = true := by
  rw [isSome_digit?] at digit
  simp only [CharClass.test_wordPart, le_iff_toNat_le, Char.reduceToNat]
  omega

end TokenReader

open TokenReader

inductive Base where
  | decimal
  | octal
  | hex
  deriving DecidableEq

namespace Base

def radix : Base → Nat
  | decimal => 10
  | octal => 8
  | hex => 16

theorem radix_pos (b : Base) : 0 < b.radix := by
  cases b <;> decide

def digits : Base → List Char → List Char
  | decimal, t => t
  | octal, t => t
  | hex, t => t.drop 2

def Shape : Base → List Char → Prop
  | decimal, t => ∃ c ds, t = c :: ds ∧ c ≠ '0'
  | octal, t => ∃ ds, t = '0' :: ds
  | hex, t => ∃ x d ds, t = '0' :: x :: d :: ds ∧ (x = 'x' ∨ x = 'X')

structure Literal (b : Base) (t : List Char) : Prop where
  shape : b.Shape t
  digits : ∀ c ∈ b.digits t, (digit? b.radix c).isSome

def value (b : Base) (t : List Char) : Nat := number b.radix (b.digits t)

def pattern : Base → Pattern
  | decimal => Pattern.decInteger
  | octal => Pattern.octInteger
  | hex => Pattern.hexInteger

theorem pattern_recognizes (b : Base) :
    b.pattern.run.Recognizes fun t r =>
      b.Literal t ∧ ∀ c ∈ r.head?, (digit? b.radix c).isSome = false := by
  cases b with
  | decimal =>
    rw [pattern, Pattern.decInteger, Pattern.andThen_run, Pattern.range, Pattern.manyOf,
      Pattern.run, Pattern.run]
    refine ((Matcher.charWhere_recognizes _).andThen
      (Matcher.repeatedWhere_recognizes _ 0)).congr fun t r => ?_
    simp only [radix, isDigit_nonzero, ← isSome_digit?_ten]
    constructor
    · rintro ⟨_, ds, rfl, ⟨c, rfl, nonzero, first⟩, -, others, last⟩
      exact ⟨⟨⟨c, ds, rfl, nonzero⟩, List.forall_mem_cons.2 ⟨first, others⟩⟩, last⟩
    · rintro ⟨⟨⟨c, ds, rfl, nonzero⟩, all⟩, last⟩
      obtain ⟨first, others⟩ := List.forall_mem_cons.1 all
      exact ⟨[c], ds, rfl, ⟨c, rfl, nonzero, first⟩, Nat.zero_le _, others, last⟩
  | octal =>
    rw [pattern, Pattern.octInteger, Pattern.andThen_run, Pattern.manyOf, Pattern.run, Pattern.run]
    refine ((Matcher.charWhere_recognizes _).andThen
      (Matcher.repeatedWhere_recognizes _ 0)).congr fun t r => ?_
    simp only [radix, beq_iff_eq, ← isSome_digit?_eight]
    constructor
    · rintro ⟨_, ds, rfl, ⟨_, rfl, rfl⟩, -, others, last⟩
      exact ⟨⟨⟨ds, rfl⟩, List.forall_mem_cons.2 ⟨by decide, others⟩⟩, last⟩
    · rintro ⟨⟨⟨ds, rfl⟩, all⟩, last⟩
      exact ⟨['0'], ds, rfl, ⟨_, rfl, rfl⟩, Nat.zero_le _, (List.forall_mem_cons.1 all).2, last⟩
  | hex =>
    rw [pattern, Pattern.hexInteger, Pattern.andThen_run, Pattern.orElse_run, Pattern.string,
      Pattern.string, Pattern.atLeastOf, Pattern.run, Pattern.run, Pattern.run]
    refine (((Matcher.text_recognizes _).any (Matcher.text_recognizes _)).andThen
      (Matcher.repeatedWhere_recognizes _ 1)).congr fun t r => ?_
    simp only [radix, ← isSome_digit?_sixteen]
    constructor
    · rintro ⟨_, ds, rfl, marked, some, others, last⟩
      obtain ⟨d, ds, rfl⟩ := List.exists_cons_of_length_pos some
      rcases marked with rfl | ⟨-, rfl⟩
      · exact ⟨⟨⟨'x', d, ds, rfl, .inl rfl⟩, others⟩, last⟩
      · exact ⟨⟨⟨'X', d, ds, rfl, .inr rfl⟩, others⟩, last⟩
    · rintro ⟨⟨⟨x, d, ds, rfl, marked⟩, all⟩, last⟩
      refine ⟨['0', x], d :: ds, rfl, ?_, Nat.le_add_left .., all, last⟩
      rcases marked with rfl | rfl
      · exact .inl rfl
      · exact .inr ⟨by simp [Matcher.text], rfl⟩

def read : Base → List Char → Except TokenError Token
  | decimal => long 10
  | octal => long 8
  | hex => fun t => match t with
    | '0' :: 'x' :: ds | '0' :: 'X' :: ds => long 16 ds
    | ds => long 16 ds

theorem read_eq {b : Base} {t : List Char} (literal : b.Literal t) :
    b.read t = if b.value t ≤ longLimit then .ok (.long (b.value t))
      else .error (.overflow (String.ofList (b.digits t))) := by
  rw [value, ← long_eq b.radix_pos literal.digits]
  cases b with
  | decimal => rfl
  | octal => rfl
  | hex =>
    obtain ⟨x, d, ds, rfl, rfl | rfl⟩ := literal.shape
    · rfl
    · rfl

end Base

end Descent
