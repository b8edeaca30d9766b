import Descent.Proofs.Token.Literal

set_option autoImplicit false

namespace Descent

open Text (size)

variable {β : Type}

namespace TokenReader

theorem longLimit_eq : longLimit = 2 ^ 63 - 1 := rfl

def IsDigit (radix d : Nat) (c : Char) : Prop := d < radix ∧ c.toLower = d.digitChar

instance (radix d : Nat) (c : Char) : Decidable (IsDigit radix d c) :=
  inferInstanceAs (Decidable (d < radix ∧ c.toLower = d.digitChar))

variable {radix d n : Nat} {c : Char} {values : List Nat} {text : List Char}

theorem eq_toUpper_of_isUpper (upper : c.isUpper = true) (small : d < 16)
    (lower : c.toLower = d.digitChar) : c = d.digitChar.toUpper := by
  have known : ∀ n < 91, 65 ≤ n → ∀ d < 16, (Char.ofNat n).toLower = d.digitChar →
      Char.ofNat n = d.digitChar.toUpper := by
    decide
  obtain ⟨first, last⟩ := of_decide_eq_true upper
  have only := known c.toNat (Nat.lt_succ_of_le (UInt32.le_iff_toNat_le.1 last))
    (UInt32.le_iff_toNat_le.1 first) d small
  rw [Char.ofNat_toNat] at only
  exact only lower

theorem toLower_of_not_isUpper (other : ¬ c.isUpper = true) : c.toLower = c :=
  dif_neg fun within => other (decide_eq_true within)

theorem digit?_of_isDigit (small : radix ≤ 16) (isDigit : IsDigit radix d c) :
    digit? radix c = some d := by
  obtain ⟨below, lower⟩ := isDigit
  have known : ∀ radix < 17, ∀ d < radix,
      digit? radix d.digitChar = some d ∧ digit? radix d.digitChar.toUpper = some d := by
    decide
  obtain ⟨inLower, inUpper⟩ := known radix (by omega) d below
  by_cases upper : c.isUpper = true
  case pos =>
    rw [eq_toUpper_of_isUpper upper (by omega) lower]
    exact inUpper
  case neg =>
    rw [toLower_of_not_isUpper upper] at lower
    rwa [lower]

theorem number_of_digits (small : radix ≤ 16) (spells : List.Forall₂ (IsDigit radix) values text) :
    (∀ c ∈ text, (digit? radix c).isSome) ∧
      number radix text = Nat.ofDigits radix values.reverse := by
  have same : text.map (digit? radix) = values.map some := by
    induction spells with
    | nil => rfl
    | cons isDigit _ ih => rw [List.map_cons, List.map_cons, digit?_of_isDigit small isDigit, ih]
  constructor
  · intro c member
    have found : digit? radix c ∈ values.map some := same ▸ List.mem_map_of_mem member
    obtain ⟨d, -, found⟩ := List.mem_map.1 found
    exact found ▸ rfl
  · have digits : text.map (digit radix) = values := by
      calc text.map (digit radix)
          = (text.map (digit? radix)).map fun d => d.getD 0 := by
            rw [List.map_map]
            rfl
        _ = values := by simp [same]
    rw [number, List.map_reverse, digits]

theorem exists_digits (base : 1 < radix) (n : Nat) : ∃ values : List Nat,
    (∀ d ∈ values, d < radix) ∧ Nat.toDigits radix n = values.map Nat.digitChar ∧
      Nat.ofDigits radix values.reverse = n := by
  induction n using Nat.strong_induction_on with
  | _ n ih =>
    by_cases small : n < radix
    case pos => exact ⟨[n], by simpa, by simp [Nat.toDigits_of_lt_base small], by simp⟩
    case neg =>
      have less : n / radix < n := Nat.div_lt_self (by omega) base
      obtain ⟨values, below, same, denotes⟩ := ih (n / radix) less
      refine ⟨values ++ [n % radix], ?_, ?_, ?_⟩
      · simpa [or_imp, forall_and] using ⟨below, Nat.mod_lt n (by omega)⟩
      · rw [Nat.toDigits_of_base_le base (by omega), same]
        simp
      · rw [List.reverse_append, List.reverse_singleton, List.singleton_append, Nat.ofDigits_cons,
          denotes]
        exact Nat.mod_add_div n radix

theorem head?_toDigits (base : 1 < radix) (positive : 0 < n) :
    (Nat.toDigits radix n).head? ≠ some '0' := by
  induction n using Nat.strong_induction_on with
  | _ n ih =>
    by_cases small : n < radix
    case pos =>
      rw [Nat.toDigits_of_lt_base small]
      simpa using positive.ne'
    case neg =>
      have first := ih (n / radix) (Nat.div_lt_self positive base)
        (Nat.div_pos (by omega) (by omega))
      rw [Nat.toDigits_of_base_le base (by omega),
        List.head?_append_of_ne_nil _ Nat.toDigits_ne_nil]
      exact first

theorem number_of_toDigits (base : 1 < radix) (small : radix ≤ 16)
    (same : text.map Char.toLower = Nat.toDigits radix n) :
    (∀ c ∈ text, (digit? radix c).isSome) ∧ number radix text = n := by
  obtain ⟨values, below, rendered, denotes⟩ := exists_digits base n
  have alike : List.Forall₂ Eq (values.map Nat.digitChar) (text.map Char.toLower) := by
    rw [same, rendered]
    exact List.forall₂_refl _
  have spells : List.Forall₂ (fun d c => c.toLower = Nat.digitChar d) values text := by
    rw [List.forall₂_map_left_iff, List.forall₂_map_right_iff] at alike
    exact alike.imp fun _ _ => Eq.symm
  rw [← denotes]
  exact number_of_digits small ((List.forall₂_and_left _ _).2 ⟨below, spells⟩)

theorem toLower_toDigits (base : 1 < radix) (small : radix ≤ 16) (n : Nat) :
    (Nat.toDigits radix n).map Char.toLower = Nat.toDigits radix n := by
  have lower : ∀ d < 16, (Nat.digitChar d).toLower = Nat.digitChar d := by decide
  obtain ⟨values, below, rendered, -⟩ := exists_digits base n
  rw [rendered, List.map_map]
  exact List.map_congr_left fun d member => lower d (Nat.lt_of_lt_of_le (below d member) small)

end TokenReader

namespace Base

open TokenReader

variable {b : Base} {text ds rest : List Char} {n : Nat}

theorem radix_le (b : Base) : b.radix ≤ 16 := by
  cases b <;> decide

def reader : Base → TokenReader
  | decimal => decimalLong
  | octal => octLong
  | hex => hexLong

def marks : Base → List (List Char)
  | hex => [[], ['0', 'x'], ['0', 'X']]
  | _ => [[]]

theorem read_marked {mark : List Char} (member : mark ∈ b.marks)
    (all : ∀ c ∈ ds, (digit? b.radix c).isSome) : b.read (mark ++ ds) = long b.radix ds := by
  cases b with
  | decimal =>
    obtain rfl := List.mem_singleton.1 member
    rfl
  | octal =>
    obtain rfl := List.mem_singleton.1 member
    rfl
  | hex =>
    simp only [marks, List.mem_cons, List.not_mem_nil, or_false] at member
    rcases member with rfl | rfl | rfl
    · rw [List.nil_append, read]
      dsimp only
      split
      case h_1 => exact absurd (all 'x' (by simp)) (by decide)
      case h_2 => exact absurd (all 'X' (by simp)) (by decide)
      case h_3 => rfl
    · rfl
    · rfl

theorem reader_eq {source : List Char} {first length : Nat} {mark : List Char} {values : List Nat}
    (slice : Text.slice? source first (first + length) = some (mark ++ ds))
    (member : mark ∈ b.marks) (spells : List.Forall₂ (IsDigit b.radix) values ds) :
    b.reader source first length =
      let v := Nat.ofDigits b.radix values.reverse
      if v ≤ longLimit then .ok (.long v) else .error (.overflow (String.ofList ds)) := by
  obtain ⟨all, denotes⟩ := number_of_digits b.radix_le spells
  have reads : b.reader = ofText b.read := by
    cases b <;> rfl
  have sliced : TokenReader.slice source first length = .ok (mark ++ ds) := by
    rw [TokenReader.slice, slice]
  have value : b.reader source first length = long b.radix ds := by
    rw [reads, ofText, sliced, ← read_marked member all]
    rfl
  rw [value, long_eq b.radix_pos all, denotes]

theorem literal_decimal (positive : 0 < n) :
    decimal.Literal (Nat.toDigits 10 n) ∧ decimal.value (Nat.toDigits 10 n) = n := by
  obtain ⟨all, denotes⟩ := number_of_toDigits (by decide) (by decide)
    (toLower_toDigits (by decide : 1 < 10) (by decide) n)
  refine ⟨⟨?_, all⟩, denotes⟩
  have first := head?_toDigits (by decide : 1 < 10) positive
  obtain ⟨c, ds, same⟩ := List.exists_cons_of_ne_nil (Nat.toDigits_ne_nil (n := n) (b := 10))
  rw [same] at first ⊢
  exact ⟨c, ds, rfl, fun zero => first (congrArg some zero)⟩

theorem literal_octal (n : Nat) :
    octal.Literal ('0' :: Nat.toDigits 8 n) ∧ octal.value ('0' :: Nat.toDigits 8 n) = n := by
  obtain ⟨all, denotes⟩ := number_of_toDigits (by decide) (by decide)
    (toLower_toDigits (by decide : 1 < 8) (by decide) n)
  refine ⟨⟨⟨_, rfl⟩, List.forall_mem_cons.2 ⟨by decide, all⟩⟩, ?_⟩
  have zero : digit 8 '0' = 0 := by decide
  rw [value, digits, radix, number_cons, denotes, zero, Nat.zero_mul, Nat.zero_add]

theorem literal_hex {x : Char} (mark : x = 'x' ∨ x = 'X')
    (same : ds.map Char.toLower = Nat.toDigits 16 n) :
    hex.Literal ('0' :: x :: ds) ∧ hex.value ('0' :: x :: ds) = n := by
  obtain ⟨all, denotes⟩ := number_of_toDigits (by decide) (by decide) same
  refine ⟨⟨?_, all⟩, denotes⟩
  cases ds with
  | nil => exact absurd same.symm Nat.toDigits_ne_nil
  | cons d ds => exact ⟨x, d, ds, rfl, mark⟩

theorem lexer_reads_literal (b : Base) (calls : Calls β) (literal : b.Literal text)
    (ends : ∀ c ∈ rest.head?, CharClass.wordPart.test c = false) (fits : b.value text ≤ longLimit) :
    (b.lexer : Lexer β).Reads calls text rest (.long (b.value text)) := by
  obtain ⟨name, label, same⟩ := b.lexer_eq (β := β)
  have read : b.read text = .ok (.long (b.value text)) := by
    rw [read_eq literal, if_pos fits]
  rw [same]
  exact Lexer.reads_of_scans (fun _ _ _ => Scanner.delimited_scans rfl b.pattern label)
    (b.delimited_recognizes.iff_related.2 ⟨literal, ends⟩) read name

theorem long_reads_literal (b : Base) (calls : Calls β) (literal : b.Literal text)
    (ends : ∀ c ∈ rest.head?, CharClass.wordPart.test c = false) (fits : b.value text ≤ longLimit) :
    (Lexer.long : Lexer β).Reads calls text rest (.long (b.value text)) := by
  intro w origin positions n s here
  let env : Env := ⟨.chars w, origin, positions⟩
  let branch (b : Base) : Action β .lexeme := b.lexer.eval calls
  obtain ⟨before, after, order⟩ : ∃ before after,
      [.hex, .decimal, .octal] = before ++ b :: after := List.append_of_mem (by cases b <;> simp)
  have apart : [Base.hex, .decimal, .octal].Pairwise fun b b' => b ≠ .octal ∧ b ≠ b' := by simp
  rw [order, List.pairwise_append] at apart
  -- The lexers of the bases before it fail where they are.
  have misses : ∀ x ∈ before.map branch, ∀ u : State β, u.cursor = s.cursor →
      ∃ t, x.run env u = ⟨.error .fail, t⟩ ∧ t.offset = u.offset := by
    intro x member u same
    obtain ⟨other, listed, rfl⟩ := List.mem_map.1 member
    obtain ⟨notOctal, different⟩ := apart.2.2 other listed b List.mem_cons_self
    have place : u.offset = s.offset := congrArg Cursor.offset same
    apply other.lexer_stays calls rfl
    rw [place, here]
    exact misses_of_literal notOctal different literal ends
  have reads : ∀ u : State β, u.cursor = s.cursor →
      ∃ t, (branch b).run env u = ⟨.ok ⟨s.offset, size text, .long (b.value text)⟩, t⟩ ∧
        t.cursor = ⟨s.offset + size text, s.steps + 1⟩ := by
    intro u same
    have place : u.offset = s.offset := congrArg Cursor.offset same
    have step : u.steps = s.steps := congrArg Cursor.steps same
    rw [← place] at here
    rw [← place, ← step]
    exact b.lexer_reads_literal calls literal ends fits w origin positions
      Action.defaultLookahead u here
  obtain ⟨t, ran, cursor⟩ := Action.sumFrom_reads n (after.map branch) rfl misses reads
  refine ⟨t, ?_, cursor⟩
  rw [Lexer.eval_long, Action.named, Action.sum, order, List.map_append, List.map_cons, ran]

end Base

/-- The readers of integers give the number that the digits denote if it is a token, and otherwise
report that it is out of range. -/
theorem Lexer.integers_exact (calls : Calls β) :
    (∀ (b : Base) (source : List Char) (first length : Nat) (mark ds : List Char)
        (values : List Nat), Text.slice? source first (first + length) = some (mark ++ ds) →
        mark ∈ b.marks → List.Forall₂ (TokenReader.IsDigit b.radix) values ds →
        b.reader source first length =
          let v := Nat.ofDigits b.radix values.reverse
          if v ≤ 2 ^ 63 - 1 then .ok (.long v) else .error (.overflow (String.ofList ds))) ∧
      ∀ (n : Nat) (rest : List Char), n ≤ 2 ^ 63 - 1 →
        (∀ c ∈ rest.head?, ¬ (c = '_' ∨ c.isAlphanum)) →
        let reads (text : List Char) := (long : Lexer β).Reads calls text rest (.long n)
        reads (toString n).toList ∧ reads ('0' :: Nat.toDigits 8 n) ∧
          ∀ x ds, x = 'x' ∨ x = 'X' → ds.map Char.toLower = Nat.toDigits 16 n →
            reads ('0' :: x :: ds) := by
  rw [← TokenReader.longLimit_eq]
  refine ⟨fun b source first length mark ds values slice member spells =>
    Base.reader_eq slice member spells, fun n rest fits stops => ?_⟩
  have ends : ∀ c ∈ rest.head?, CharClass.wordPart.test c = false := by
    intro c next
    simpa [CharClass.wordPart] using stops c next
  -- However the number is written, it is enough that the text is a literal with its value.
  have reads (b : Base) (text : List Char) (written : b.Literal text ∧ b.value text = n) :
      (long : Lexer β).Reads calls text rest (.long n) := by
    obtain ⟨literal, rfl⟩ := written
    exact b.long_reads_literal calls literal ends fits
  refine ⟨?_, reads .octal _ (Base.literal_octal n), fun x ds mark same =>
    reads .hex _ (Base.literal_hex mark same)⟩
  rw [Nat.toString_eq_ofList_toDigits, String.toList_ofList]
  rcases Nat.eq_zero_or_pos n with rfl | positive
  · exact reads .octal ['0'] ⟨⟨⟨[], rfl⟩, List.forall_mem_singleton.2 (by decide)⟩, by decide⟩
  · exact reads .decimal _ (Base.literal_decimal positive)

theorem Lexer.hexadecimal_exact :
    let calls := Rules.calls ([] : Rules Nat) 0
    let env := Env.ofText "0xfF;".toList "text" (PositionMap.ofSource [])
    TokenReader.hexLong "0X8000000000000000".toList 0 18 =
        .error (.overflow "8000000000000000") ∧
      ∃ t, long.eval calls env 1 (env.stateAt .start) = ⟨.ok ⟨0, 4, .long 255⟩, t⟩ ∧
        t.cursor = ⟨4, 1⟩ := by
  intro calls env
  obtain ⟨reader, lexer⟩ := integers_exact calls
  refine ⟨?_, ?_⟩
  · exact reader .hex "0X8000000000000000".toList 0 18 ['0', 'X'] ('8' :: List.replicate 15 '0')
      (8 :: List.replicate 15 0) (by decide +kernel) (by decide) (by decide)
  · obtain ⟨-, -, hexadecimal⟩ := lexer 255 [';'] (by decide) (by simp)
    exact hexadecimal 'x' ['f', 'F'] (by simp) (by decide) _ _ _ 1 (env.stateAt .start)
      (by decide +kernel)

end Descent
