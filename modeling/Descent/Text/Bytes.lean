set_option autoImplicit false

namespace Descent.Text

def size : List Char → Nat
  | [] => 0
  | c :: s => c.utf8Size + size s

@[simp] theorem size_nil : size [] = 0 := rfl

@[simp] theorem size_cons (c : Char) (s : List Char) : size (c :: s) = c.utf8Size + size s := rfl

@[simp] theorem size_append (s t : List Char) : size (s ++ t) = size s + size t := by
  induction s with
  | nil => simp
  | cons c s ih => simp [ih, Nat.add_assoc]

def drop? : Nat → List Char → Option (List Char)
  | 0, s => some s
  | _ + 1, [] => none
  | n + 1, c :: s => if c.utf8Size ≤ n + 1 then drop? (n + 1 - c.utf8Size) s else none

def take? : Nat → List Char → Option (List Char)
  | 0, _ => some []
  | _ + 1, [] => none
  | n + 1, c :: s =>
    if c.utf8Size ≤ n + 1 then (take? (n + 1 - c.utf8Size) s).map (c :: ·) else none

def slice? (s : List Char) (first stop : Nat) : Option (List Char) :=
  if first ≤ stop then (drop? first s).bind (take? (stop - first)) else none

def IsBoundary (s : List Char) (n : Nat) : Prop := ∃ p r, s = p ++ r ∧ n = size p

@[simp] theorem drop?_zero (s : List Char) : drop? 0 s = some s := by
  cases s <;> rfl

@[simp] theorem take?_zero (s : List Char) : take? 0 s = some [] := by
  cases s <;> rfl

theorem drop?_size_append (p r : List Char) : drop? (size p) (p ++ r) = some r := by
  induction p with
  | nil => simp
  | cons c p ih =>
    have h : 0 < c.utf8Size := c.utf8Size_pos
    obtain ⟨k, hk⟩ : ∃ k, c.utf8Size + size p = k + 1 := ⟨c.utf8Size + size p - 1, by omega⟩
    have hle : c.utf8Size ≤ k + 1 := by omega
    have hsub : k + 1 - c.utf8Size = size p := by omega
    simp [hk, drop?, hle, hsub, ih]

theorem take?_size_append (p r : List Char) : take? (size p) (p ++ r) = some p := by
  induction p with
  | nil => simp
  | cons c p ih =>
    have h : 0 < c.utf8Size := c.utf8Size_pos
    obtain ⟨k, hk⟩ : ∃ k, c.utf8Size + size p = k + 1 := ⟨c.utf8Size + size p - 1, by omega⟩
    have hle : c.utf8Size ≤ k + 1 := by omega
    have hsub : k + 1 - c.utf8Size = size p := by omega
    simp [hk, take?, hle, hsub, ih]

theorem exists_of_drop? {n : Nat} {s r : List Char} (h : drop? n s = some r) :
    ∃ p, s = p ++ r ∧ n = size p := by
  induction s generalizing n with
  | nil =>
    cases n with
    | zero => exact ⟨[], by simpa [drop?] using h, rfl⟩
    | succ n => simp [drop?] at h
  | cons c s ih =>
    cases n with
    | zero => exact ⟨[], by simpa [drop?] using h, rfl⟩
    | succ n =>
      by_cases hc : c.utf8Size ≤ n + 1
      · simp only [drop?, hc, if_true] at h
        obtain ⟨p, rfl, hp⟩ := ih h
        exact ⟨c :: p, rfl, by simp; omega⟩
      · simp [drop?, hc] at h

theorem exists_of_take? {n : Nat} {s p : List Char} (h : take? n s = some p) :
    ∃ r, s = p ++ r ∧ n = size p := by
  induction s generalizing n p with
  | nil =>
    cases n with
    | zero => exact ⟨[], by simpa [take?] using h.symm, by simp_all [take?]⟩
    | succ n => simp [take?] at h
  | cons c s ih =>
    cases n with
    | zero =>
      obtain rfl : p = [] := by simpa [take?] using h.symm
      exact ⟨c :: s, rfl, rfl⟩
    | succ n =>
      by_cases hc : c.utf8Size ≤ n + 1
      · simp only [take?, hc, if_true] at h
        obtain ⟨q, hq, rfl⟩ := Option.map_eq_some_iff.1 h
        obtain ⟨r, rfl, hn⟩ := ih hq
        exact ⟨r, rfl, by simp; omega⟩
      · simp [take?, hc] at h

theorem drop?_eq_some_iff {n : Nat} {s r : List Char} :
    drop? n s = some r ↔ ∃ p, s = p ++ r ∧ n = size p := by
  constructor
  · exact exists_of_drop?
  · rintro ⟨p, rfl, rfl⟩
    exact drop?_size_append p r

theorem slice?_eq_bind (s : List Char) (first stop : Nat) :
    slice? s first stop = (take? stop s).bind (drop? first) := by
  cases hp : take? stop s with
  | none =>
    by_cases hle : first ≤ stop
    · simp only [slice?, hle, if_true, Option.bind_none, Option.bind_eq_none_iff]
      intro t ht
      cases hq : take? (stop - first) t with
      | none => rfl
      | some q =>
        obtain ⟨a, rfl, ha⟩ := exists_of_drop? ht
        obtain ⟨r, rfl, hn⟩ := exists_of_take? hq
        have hsize : stop = size (a ++ q) := by simp; omega
        rw [← List.append_assoc, hsize, take?_size_append] at hp
        simp at hp
    · simp [slice?, hle]
  | some p =>
    obtain ⟨r, rfl, rfl⟩ := exists_of_take? hp
    simp only [Option.bind_some]
    cases hq : drop? first p with
    | some q =>
      obtain ⟨a, rfl, rfl⟩ := exists_of_drop? hq
      simp [slice?, drop?_size_append, take?_size_append]
    | none =>
      by_cases hle : first ≤ size p
      · simp only [slice?, hle, if_true, Option.bind_eq_none_iff]
        intro t ht
        obtain ⟨a, ha, rfl⟩ := exists_of_drop? ht
        rcases List.append_eq_append_iff.1 ha with ⟨b, rfl, rfl⟩ | ⟨b, rfl, rfl⟩
        · cases b with
          | nil =>
            have h := drop?_size_append p []
            rw [List.append_nil] at h hq
            simp [hq] at h
          | cons c b =>
            have h := c.utf8Size_pos
            simp at hle
            omega
        · rw [drop?_size_append] at hq
          simp at hq
      · simp [slice?, hle]

def tails : List Char → List (Option (List Char))
  | [] => [some []]
  | c :: s => some (c :: s) :: (List.replicate (c.utf8Size - 1) none ++ tails s)

theorem getElem?_tails (s : List Char) (n : Nat) : (tails s)[n]?.join = drop? n s := by
  induction s generalizing n with
  | nil => cases n <;> simp [tails, drop?]
  | cons c s ih =>
    cases n with
    | zero => simp [tails]
    | succ n =>
      have h := c.utf8Size_pos
      by_cases hc : c.utf8Size ≤ n + 1
      · have hge : c.utf8Size - 1 ≤ n := by omega
        have hn : n - (c.utf8Size - 1) = n + 1 - c.utf8Size := by omega
        simp [tails, drop?, hc, List.getElem?_append, Nat.not_lt.2 hge, hn, ih]
      · have hlt : n < c.utf8Size - 1 := by omega
        simp [tails, drop?, hc, List.getElem?_append, hlt]

def pushTails (table : Array (Option (List Char))) : List Char → Array (Option (List Char))
  | [] => table.push (some [])
  | c :: s =>
    pushTails (table.push (some (c :: s)) ++ Array.replicate (c.utf8Size - 1) none) s

theorem toList_pushTails (table : Array (Option (List Char))) (s : List Char) :
    (pushTails table s).toList = table.toList ++ tails s := by
  induction s generalizing table with
  | nil => simp [pushTails, tails]
  | cons c s ih => simp [pushTails, tails, ih]

def tailTable (s : List Char) : Array (Option (List Char)) := pushTails #[] s

theorem getElem?_tailTable (s : List Char) (n : Nat) : (tailTable s)[n]?.join = drop? n s := by
  rw [← getElem?_tails, tailTable, ← Array.getElem?_toList, toList_pushTails]
  simp

end Descent.Text
