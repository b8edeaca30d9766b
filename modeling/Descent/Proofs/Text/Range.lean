import Descent.Proofs.Pattern.Boundary
import Mathlib.Tactic.ByContra

set_option autoImplicit false

namespace Descent.Text

def bytes (s : List Char) : List UInt8 := s.flatMap String.utf8EncodeChar

@[simp] theorem bytes_nil : bytes [] = [] := rfl

@[simp] theorem bytes_cons (c : Char) (s : List Char) :
    bytes (c :: s) = String.utf8EncodeChar c ++ bytes s := rfl

@[simp] theorem bytes_append (s t : List Char) : bytes (s ++ t) = bytes s ++ bytes t := by
  simp [bytes]

@[simp] theorem length_bytes (s : List Char) : (bytes s).length = size s := by
  induction s with
  | nil => rfl
  | cons c s ih => simp [ih]

structure Agree (first stop : Nat) (s s' : List Char) : Prop where
  bytes : ∀ i, first ≤ i → i < stop → (bytes s)[i]? = (Text.bytes s')[i]?
  edge : stop ≤ first ∨ size s ≤ first → (IsBoundary s first ↔ IsBoundary s' first)

theorem eq_of_encoded {c c' : Char} {l l' : List UInt8}
    (same : String.utf8EncodeChar c ++ l = String.utf8EncodeChar c' ++ l') : c = c' := by
  have decoded (c : Char) (l : List UInt8) :
      (String.utf8EncodeChar c ++ l).toByteArray.utf8DecodeChar? 0 = some c := by
    rw [List.toByteArray_append]
    exact ByteArray.utf8DecodeChar?_utf8EncodeChar_append
  apply Option.some.inj
  rw [← decoded c l, same, decoded c' l']

theorem head_eq {c c' : Char} {s s' : List Char} {n : Nat} (fits : c.utf8Size ≤ n)
    (same : ∀ i, i < n → (bytes (c :: s))[i]? = (bytes (c' :: s'))[i]?) : c = c' := by
  have size : (String.utf8EncodeChar c).length = c.utf8Size := String.length_utf8EncodeChar c
  have taken : (bytes (c' :: s')).take c.utf8Size = String.utf8EncodeChar c := by
    have whole : (bytes (c :: s)).take c.utf8Size = String.utf8EncodeChar c := by
      rw [bytes_cons, ← size, List.take_left]
    rw [← whole]
    apply List.ext_getElem?
    intro i
    by_cases inside : i < c.utf8Size
    · rw [List.getElem?_take_of_lt inside, List.getElem?_take_of_lt inside]
      exact (same i (by omega)).symm
    · rw [List.getElem?_take_eq_none (by omega), List.getElem?_take_eq_none (by omega)]
  have split := List.take_append_drop c.utf8Size (bytes (c' :: s'))
  rw [taken, bytes_cons] at split
  exact eq_of_encoded split

theorem first_byte_ne_none {c : Char} {s : List Char} : (bytes (c :: s))[0]? ≠ none := by
  intro absent
  have short := List.getElem?_eq_none_iff.1 absent
  have positive := c.utf8Size_pos
  rw [length_bytes, size_cons] at short
  omega

theorem take?_congr {s s' : List Char} {n : Nat}
    (same : ∀ i, i < n → (bytes s)[i]? = (bytes s')[i]?) :
    take? (min n (size s)) s = take? (min n (size s')) s' := by
  induction s generalizing s' n with
  | nil =>
    cases n with
    | zero => simp
    | succ n =>
      have first := same 0 (Nat.succ_pos n)
      cases s' with
      | nil => rfl
      | cons c s' => exact absurd first.symm first_byte_ne_none
  | cons c s ih =>
    cases n with
    | zero => simp
    | succ n =>
      cases s' with
      | nil =>
        exact absurd (same 0 (Nat.succ_pos n)) first_byte_ne_none
      | cons c' s' =>
        have positive := c.utf8Size_pos
        have positive' := c'.utf8Size_pos
        -- The first character is the same in both texts, or longer than what is cut off in both.
        by_cases fits : c.utf8Size ≤ n + 1
        · obtain rfl := head_eq fits same
          have shared : ∀ i, i < n + 1 - c.utf8Size → (bytes s)[i]? = (bytes s')[i]? := by
            intro i lt
            have shifted := same (c.utf8Size + i) (by omega)
            simpa [List.getElem?_append_right] using shifted
          have cut (s : List Char) : take? (min (n + 1) (size (c :: s))) (c :: s) =
              (take? (min (n + 1 - c.utf8Size) (size s)) s).map (c :: ·) := by
            obtain ⟨m, bound⟩ : ∃ m, min (n + 1) (size (c :: s)) = m + 1 := by
              refine ⟨min (n + 1) (size (c :: s)) - 1, ?_⟩
              rw [size_cons]
              omega
            have left : m + 1 - c.utf8Size = min (n + 1 - c.utf8Size) (size s) := by
              rw [size_cons] at bound
              omega
            have inside : c.utf8Size ≤ m + 1 := by
              rw [size_cons] at bound
              omega
            rw [bound, take?, if_pos inside, left]
          rw [cut, cut, ih shared]
        · have splits' : ¬ c'.utf8Size ≤ n + 1 := fun fits' =>
            fits (head_eq fits' (fun i lt => (same i lt).symm) ▸ fits')
          have cut (c : Char) (s : List Char) (splits : ¬ c.utf8Size ≤ n + 1) :
              take? (min (n + 1) (size (c :: s))) (c :: s) = none := by
            have bound : min (n + 1) (size (c :: s)) = n + 1 := by
              rw [size_cons]
              omega
            rw [bound, take?, if_neg splits]
          rw [cut c s fits, cut c' s' splits']

theorem isBoundary_iff_first {s : List Char} {i : Nat} (inside : i < (bytes s).length) :
    IsBoundary s i ↔ (bytes s)[i].IsUTF8FirstByte := by
  induction s generalizing i with
  | nil => simp at inside
  | cons c s ih =>
    have length := String.length_utf8EncodeChar c
    by_cases within : i < c.utf8Size
    · have byte : (bytes (c :: s))[i] = (String.utf8EncodeChar c)[i] :=
        List.getElem_append_left (by omega)
      rw [byte, UInt8.isUTF8FirstByte_getElem_utf8EncodeChar]
      constructor
      · rintro ⟨p, r, text, rfl⟩
        cases p with
        | nil => rfl
        | cons d p =>
          obtain ⟨rfl, -⟩ := List.cons.inj text
          rw [size_cons] at within
          omega
      · rintro rfl
        exact .zero
    · obtain ⟨j, rfl⟩ : ∃ j, i = c.utf8Size + j := ⟨i - c.utf8Size, by omega⟩
      have later : j < (bytes s).length := by
        simp only [length_bytes, size_cons] at inside ⊢
        omega
      have byte : (bytes (c :: s))[c.utf8Size + j] = (bytes s)[j] := by
        simp [List.getElem_append_right]
      rw [byte, ← ih later]
      constructor
      · rintro ⟨p, r, text, size⟩
        cases p with
        | nil =>
          have := c.utf8Size_pos
          simp at size
          omega
        | cons d p =>
          obtain ⟨rfl, rfl⟩ := List.cons.inj text
          exact ⟨p, r, rfl, by simpa using size⟩
      · exact fun boundary => boundary.cons c

theorem slice?_eq_none {s : List Char} {first : Nat} (inside : ¬ IsBoundary s first) (stop : Nat) :
    slice? s first stop = none := by
  by_contra found
  exact inside (slice?_isSome_iff.1 (Option.ne_none_iff_isSome.1 found)).2.1

namespace Agree

variable {first stop : Nat} {s s' : List Char}

theorem boundary (agree : Agree first stop s s') : IsBoundary s first ↔ IsBoundary s' first := by
  by_cases outside : stop ≤ first ∨ size s ≤ first
  · exact agree.edge outside
  · have same := agree.bytes first (Nat.le_refl _) (by omega)
    have inside : first < (Text.bytes s).length := by
      rw [length_bytes]
      omega
    have inside' : first < (Text.bytes s').length := by
      by_contra past
      rw [List.getElem?_eq_getElem inside, List.getElem?_eq_none (by omega)] at same
      cases same
    rw [List.getElem?_eq_getElem inside, List.getElem?_eq_getElem inside'] at same
    rw [isBoundary_iff_first inside, isBoundary_iff_first inside', Option.some.inj same]

theorem room (agree : Agree first stop s s') :
    min stop (size s) - first = min stop (size s') - first := by
  by_contra differ
  have within (s s' : List Char) (same : ∀ i, first ≤ i → i < stop →
      (Text.bytes s)[i]? = (Text.bytes s')[i]?) : ¬ max first (size s) < min stop (size s') := by
    intro lt
    have here := same (max first (size s)) (by omega) (by omega)
    have present : max first (size s) < (Text.bytes s').length := by
      rw [length_bytes]
      omega
    have absent : (Text.bytes s)[max first (size s)]? = none :=
      List.getElem?_eq_none (by rw [length_bytes]; omega)
    rw [absent, List.getElem?_eq_getElem present] at here
    cases here
  have one := within s s' agree.bytes
  have two := within s' s fun i ge lt => (agree.bytes i ge lt).symm
  omega

theorem slice (agree : Agree first stop s s') :
    slice? s first (min stop (size s)) = slice? s' first (min stop (size s')) := by
  by_cases start : IsBoundary s first
  · obtain ⟨p, r, rfl, length⟩ := start
    obtain ⟨p', r', rfl, length'⟩ := agree.boundary.1 ⟨p, r, rfl, length⟩
    subst length
    by_cases le : size p ≤ stop
    · have shared : ∀ i, i < stop - size p → (Text.bytes r)[i]? = (Text.bytes r')[i]? := by
        intro i lt
        have same := agree.bytes (size p + i) (by omega) (by omega)
        rw [bytes_append, bytes_append, List.getElem?_append_right (by simp),
          List.getElem?_append_right (by simp [← length'])] at same
        simpa [← length'] using same
      have sliced (p r : List Char) (le : size p ≤ stop) :
          slice? (p ++ r) (size p) (min stop (size (p ++ r))) =
            take? (min (stop - size p) (size r)) r := by
        have left : min stop (size (p ++ r)) - size p = min (stop - size p) (size r) := by
          rw [size_append]
          omega
        rw [slice?, if_pos (by rw [size_append]; omega), drop?_size_append, Option.bind_some, left]
      rw [sliced p r le, take?_congr shared, length', sliced p' r' (length' ▸ le)]
    · rw [slice?, slice?, if_neg (by omega), if_neg (by omega)]
  · rw [slice?_eq_none start, slice?_eq_none (agree.boundary.not.1 start)]

theorem slice_self (agree : Agree first stop s s') :
    slice? s first first = slice? s' first first := by
  by_cases start : IsBoundary s first
  · have empty (s : List Char) (start : IsBoundary s first) : slice? s first first = some [] := by
      obtain ⟨p, r, rfl, rfl⟩ := start
      rw [slice?, if_pos (Nat.le_refl _), drop?_size_append, Nat.sub_self]
      exact take?_zero r
    rw [empty s start, empty s' (agree.boundary.1 start)]
  · rw [slice?_eq_none start, slice?_eq_none (agree.boundary.not.1 start)]

end Agree

end Descent.Text
