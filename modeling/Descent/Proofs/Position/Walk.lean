import Descent.Position
import Descent.Proofs.Text.Range

set_option autoImplicit false

namespace Descent

open Text (size bytes drop? IsBoundary)

namespace Text

def search (needle : List UInt8) : (first skip : Nat) → List UInt8 → List Nat
  | _, _, [] => []
  | first, skip + 1, _ :: l => search needle (first + 1) skip l
  | first, 0, b :: l =>
    if needle.isPrefixOf (b :: l) then first :: search needle (first + 1) (needle.length - 1) l
    else search needle (first + 1) 0 l

theorem search_skip (needle : List UInt8) (first : Nat) (u l : List UInt8) :
    search needle first u.length (u ++ l) = search needle (first + u.length) 0 l := by
  induction u generalizing first with
  | nil => rfl
  | cons b u ih =>
    rw [List.length_cons, List.cons_append, search, ih]
    congr 1
    omega

theorem encoded_cons (c : Char) :
    ∃ b u, String.utf8EncodeChar c = b :: u ∧ b.IsUTF8FirstByte ∧
      ∀ d ∈ u, ¬ d.IsUTF8FirstByte := by
  cases same : String.utf8EncodeChar c with
  | nil =>
    have length := String.length_utf8EncodeChar c
    have positive := c.utf8Size_pos
    rw [same, List.length_nil] at length
    omega
  | cons b u =>
    have first (i : Nat) (inside : i < (b :: u).length) :
        (b :: u)[i].IsUTF8FirstByte ↔ i = 0 := by
      simp only [← same]
      exact UInt8.isUTF8FirstByte_getElem_utf8EncodeChar
    refine ⟨b, u, rfl, (first 0 (by simp)).2 rfl, fun d member begins => ?_⟩
    obtain ⟨i, inside, rfl⟩ := List.getElem_of_mem member
    exact absurd ((first (i + 1) (by simpa using inside)).1 begins) (Nat.succ_ne_zero i)

theorem search_pass (c : Char) (first : Nat) {u : List UInt8}
    (later : ∀ d ∈ u, ¬ d.IsUTF8FirstByte) (l : List UInt8) :
    search (String.utf8EncodeChar c) first 0 (u ++ l) =
      search (String.utf8EncodeChar c) (first + u.length) 0 l := by
  obtain ⟨b, v, encoded, begins, -⟩ := encoded_cons c
  induction u generalizing first with
  | nil => rfl
  | cons d u ih =>
    obtain ⟨here, others⟩ := List.forall_mem_cons.1 later
    have absent : ¬ (String.utf8EncodeChar c).isPrefixOf (d :: (u ++ l)) = true := by
      intro found
      rw [encoded, List.isPrefixOf_iff_prefix, List.cons_prefix_cons] at found
      exact here (found.1 ▸ begins)
    rw [List.cons_append, search, if_neg absent, ih _ others, List.length_cons]
    congr 1
    omega

theorem occurrences_eq_search (c : Char) (first : Nat) (s : List Char) :
    occurrences c first s = search (String.utf8EncodeChar c) first 0 (bytes s) := by
  induction s generalizing first with
  | nil => simp [occurrences, search]
  | cons d s ih =>
    obtain ⟨b, u, encoded, -, later⟩ := encoded_cons d
    have length : d.utf8Size = u.length + 1 := by
      rw [← String.length_utf8EncodeChar, encoded, List.length_cons]
    have next : first + d.utf8Size = first + 1 + u.length := by omega
    rw [occurrences, bytes_cons, ih]
    by_cases same : d = c
    · subst same
      have found : (String.utf8EncodeChar d).isPrefixOf (b :: (u ++ bytes s)) = true := by
        simp [encoded]
      rw [if_pos rfl, encoded, List.cons_append, ← encoded, search, if_pos found, next,
        String.length_utf8EncodeChar, length, Nat.add_sub_cancel, search_skip]
    · have absent : ¬ (String.utf8EncodeChar c).isPrefixOf (b :: (u ++ bytes s)) = true := by
        intro found
        obtain ⟨l, whole⟩ := List.isPrefixOf_iff_prefix.1 found
        rw [← List.cons_append, ← encoded] at whole
        exact same (eq_of_encoded whole).symm
      rw [if_neg same, encoded, List.cons_append, search, if_neg absent,
        search_pass c _ later, next]

end Text

section Occurrences

variable {c : Char} {first stop n : Nat} {p r s : List Char}

theorem occurrences_append (c : Char) (first : Nat) (p r : List Char) :
    occurrences c first (p ++ r) = occurrences c first p ++ occurrences c (first + size p) r := by
  induction p generalizing first with
  | nil => rfl
  | cons d p ih =>
    simp only [List.cons_append, occurrences, ih, Text.size_cons, Nat.add_assoc]
    split <;> rfl

theorem length_occurrences (c : Char) (first : Nat) (s : List Char) :
    (occurrences c first s).length = s.count c := by
  induction s generalizing first with
  | nil => rfl
  | cons d s ih =>
    by_cases same : d = c <;> simp [occurrences, same, ih]

theorem mem_occurrences (member : n ∈ occurrences c first s) :
    ∃ q t, s = q ++ c :: t ∧ n = first + size q := by
  induction s generalizing first with
  | nil => cases member
  | cons d s ih =>
    have later (member : n ∈ occurrences c (first + d.utf8Size) s) :
        ∃ q t, d :: s = q ++ c :: t ∧ n = first + size q := by
      obtain ⟨q, t, rfl, rfl⟩ := ih member
      exact ⟨d :: q, t, rfl, by simp [Nat.add_assoc]⟩
    rw [occurrences] at member
    split at member
    case isTrue same =>
      rcases List.mem_cons.1 member with rfl | member
      · exact ⟨[], s, by rw [same]; rfl, rfl⟩
      · exact later member
    case isFalse => exact later member

theorem occurrences_ascend (c : Char) (first : Nat) (s : List Char) :
    (occurrences c first s).Pairwise (· < ·) := by
  induction s generalizing first with
  | nil => exact .nil
  | cons d s ih =>
    rw [occurrences]
    split
    · refine .cons (fun n member => ?_) (ih _)
      obtain ⟨q, -, -, rfl⟩ := mem_occurrences member
      have positive := d.utf8Size_pos
      omega
    · exact ih _

theorem occurrences_of_not_mem (absent : c ∉ s) (first : Nat) : occurrences c first s = [] := by
  rw [← List.length_eq_zero_iff, length_occurrences, List.count_eq_zero]
  exact absent

end Occurrences

structure Text.Reaches (stop : Nat) (p : List Char) : Prop where
  le : stop ≤ size p
  earlier : ∀ q c t, p = q ++ c :: t → size q < stop

section Reaches

variable {c : Char} {first stop n k : Nat} {p r s t : List Char}

theorem Text.exists_reaches (within : n ≤ size s) : ∃ p r, s = p ++ r ∧ Reaches n p := by
  induction s generalizing n with
  | nil =>
    obtain rfl : n = 0 := by simpa using within
    exact ⟨[], [], rfl, Nat.le_refl 0, by simp⟩
  | cons c s ih =>
    by_cases begun : n = 0
    · exact ⟨[], c :: s, rfl, by simp [begun], by simp⟩
    · obtain ⟨p, r, rfl, reaches⟩ := ih (n := n - c.utf8Size) (by rw [size_cons] at within; omega)
      have le := reaches.le
      by_cases inside : n ≤ c.utf8Size
      · refine ⟨[c], p ++ r, rfl, by simpa using inside, fun q d t same => ?_⟩
        obtain ⟨rfl, -⟩ : q = [] ∧ _ := by simpa [List.cons_eq_append_iff] using same
        exact Nat.pos_of_ne_zero begun
      · refine ⟨c :: p, r, rfl, by rw [size_cons]; omega, fun q d t same => ?_⟩
        cases q with
        | nil => exact Nat.pos_of_ne_zero begun
        | cons e q =>
          obtain ⟨rfl, rest⟩ := List.cons.inj same
          have sooner := reaches.earlier q d t rest
          rw [size_cons]
          omega

theorem Text.Reaches.least (reaches : Reaches n p) (boundary : IsBoundary (p ++ r) k)
    (le : n ≤ k) : size p ≤ k := by
  obtain ⟨q, t, same, rfl⟩ := boundary
  rcases List.append_eq_append_iff.1 same with ⟨u, rfl, -⟩ | ⟨u, rfl, -⟩
  · rw [size_append]
    omega
  · cases u with
    | nil => simp
    | cons c u => exact absurd (reaches.earlier q c u rfl) (Nat.not_lt.2 le)

theorem Text.Reaches.before (reaches : Reaches stop p) (member : n ∈ occurrences c 0 p) :
    n < stop := by
  obtain ⟨q, t, same, rfl⟩ := mem_occurrences member
  simpa using reaches.earlier q c t same

theorem Text.Reaches.occurrences (reaches : Reaches stop p) (c : Char) (r : List Char) :
    (occurrences c 0 (p ++ r)).takeWhile (· < stop) = occurrences c 0 p := by
  have before : ∀ n ∈ Descent.occurrences c 0 p, decide (n < stop) = true :=
    fun n member => decide_eq_true (reaches.before member)
  rw [occurrences_append, List.takeWhile_append_of_pos before]
  cases after : Descent.occurrences c (0 + size p) r with
  | nil => simp
  | cons n ns =>
    obtain ⟨q, t, -, rfl⟩ := mem_occurrences (after ▸ List.mem_cons_self : n ∈ _)
    have le := reaches.le
    have past : decide (0 + size p + size q < stop) = false := decide_eq_false (by omega)
    rw [List.takeWhile_cons, past]
    simp

theorem Text.Reaches.count_le (reaches : Reaches stop p) (le : stop ≤ n) (c : Char)
    (r : List Char) : p.count c ≤ (Descent.occurrences c 0 (p ++ r)).countP (· < n) := by
  have before : ∀ k ∈ Descent.occurrences c 0 p, decide (k < n) = true :=
    fun k member => decide_eq_true (Nat.lt_of_lt_of_le (reaches.before member) le)
  rw [occurrences_append, List.countP_append, List.countP_eq_length.2 before, length_occurrences]
  exact Nat.le_add_right _ _

theorem Text.reaches_of_inside (lt : size p < k) (le : k ≤ size p + c.utf8Size) :
    Reaches k (p ++ [c]) where
  le := by simpa using le
  earlier := by
    intro q d t same
    rcases List.append_eq_append_iff.1 same with ⟨u, rfl, rest⟩ | ⟨u, rfl, -⟩
    · cases u with
      | nil => simpa using lt
      | cons e u => simp at rest
    · rw [size_append] at lt
      omega

theorem startsBefore_append (le : stop ≤ first + size t)
    (earlier : ∀ q c u, t = q ++ c :: u → first + size q < stop) (r : List Char) :
    startsBefore first stop (t ++ r) = t.length := by
  induction t generalizing first with
  | nil =>
    cases r with
    | nil => rfl
    | cons c r =>
      have past : ¬ first < stop := by simpa using le
      simp [startsBefore, past]
  | cons c t ih =>
    have begins : first < stop := earlier [] c t rfl
    rw [List.cons_append, startsBefore, if_pos begins, ih, List.length_cons]
    · rw [Text.size_cons] at le
      omega
    · intro q d u same
      have sooner := earlier (c :: q) d u (by rw [same]; rfl)
      rwa [Text.size_cons, ← Nat.add_assoc] at sooner

theorem exists_last (member : c ∈ s) : ∃ q t, s = q ++ c :: t ∧ c ∉ t := by
  obtain ⟨t, q, same, absent⟩ := List.eq_append_cons_of_mem (List.mem_reverse.2 member)
  refine ⟨q.reverse, t.reverse, ?_, by simpa using absent⟩
  rw [← List.reverse_reverse s, same]
  simp

end Reaches

namespace Position

variable {lineBreak : Char} {p q : Position} {s t : List Char}

theorem one_le_limit : 1 ≤ limit := by decide

theorem advance_le (a n : Nat) : advance a n ≤ limit := Nat.min_le_right _ _

theorem advance_zero {a : Nat} (le : a ≤ limit) : advance a 0 = a := Nat.min_eq_left le

theorem advance_advance (a m n : Nat) : advance (advance a m) n = advance a (m + n) := by
  simp only [advance]
  omega

def past (lineBreak : Char) (p : Position) (c : Char) : Position :=
  if c = lineBreak then ⟨advance p.line 1, 1⟩ else ⟨p.line, advance p.column 1⟩

/-- The position after a text. -/
def walk (lineBreak : Char) (start : Position) (s : List Char) : Position :=
  s.foldl (past lineBreak) start

theorem column_past_le (lineBreak : Char) (p : Position) (c : Char) :
    (past lineBreak p c).column ≤ limit := by
  unfold past
  split
  · exact one_le_limit
  · exact advance_le _ _

theorem column_walk_le (le : p.column ≤ limit) : (walk lineBreak p s).column ≤ limit := by
  induction s generalizing p with
  | nil => exact le
  | cons c s ih => exact ih (column_past_le lineBreak p c)

theorem line_walk (le : p.line ≤ limit) :
    (walk lineBreak p s).line = advance p.line (s.count lineBreak) := by
  induction s generalizing p with
  | nil => exact (advance_zero le).symm
  | cons c s ih =>
    by_cases same : c = lineBreak
    · have next : walk lineBreak p (c :: s) = walk lineBreak ⟨advance p.line 1, 1⟩ s := by
        simp [walk, past, same]
      rw [next, ih (advance_le _ _), advance_advance, same, List.count_cons_self, Nat.add_comm]
    · have next : walk lineBreak p (c :: s) = walk lineBreak ⟨p.line, advance p.column 1⟩ s := by
        simp [walk, past, same]
      rw [next, ih (p := ⟨p.line, advance p.column 1⟩) le, List.count_cons_of_ne same]

theorem column_walk (le : p.column ≤ limit) (absent : lineBreak ∉ s) :
    (walk lineBreak p s).column = advance p.column s.length := by
  induction s generalizing p with
  | nil => exact (advance_zero le).symm
  | cons c s ih =>
    obtain ⟨other, absent⟩ := not_or.1 (List.mem_cons.not.1 absent)
    have next : walk lineBreak p (c :: s) = walk lineBreak ⟨p.line, advance p.column 1⟩ s := by
      simp [walk, past, Ne.symm other]
    rw [next, ih (advance_le _ _) absent, advance_advance, List.length_cons, Nat.add_comm]

def Precedes (p q : Position) : Prop := p.line < q.line ∨ p.line = q.line ∧ p.column ≤ q.column

theorem Precedes.refl (p : Position) : p.Precedes p := .inr ⟨rfl, Nat.le_refl _⟩

theorem Precedes.trans {p q r : Position} (first : p.Precedes q) (second : q.Precedes r) :
    p.Precedes r := by
  unfold Precedes at *
  omega

theorem precedes_past (c : Char) (column : p.column ≤ limit)
    (line : c = lineBreak → p.line < limit) : p.Precedes (past lineBreak p c) := by
  unfold past Precedes advance
  split
  case isTrue same =>
    have room := line same
    left
    dsimp only
    omega
  case isFalse =>
    right
    dsimp only
    omega

theorem precedes_walk (column : p.column ≤ limit) (line : p.line + s.count lineBreak ≤ limit) :
    p.Precedes (walk lineBreak p s) := by
  induction s generalizing p with
  | nil => exact .refl p
  | cons c s ih =>
    have step : p.Precedes (past lineBreak p c) := by
      refine precedes_past c column fun same => ?_
      rw [same, List.count_cons_self] at line
      omega
    refine step.trans (ih (column_past_le lineBreak p c) ?_)
    unfold past
    split
    case isTrue same =>
      rw [same, List.count_cons_self] at line
      show min (p.line + 1) limit + s.count lineBreak ≤ limit
      omega
    case isFalse other =>
      rwa [List.count_cons_of_ne other] at line

end Position

namespace LineMap

def lineStart (m : LineMap) (earlier : List Nat) : Nat × Nat :=
  match earlier.getLast? with
  | none => (0, m.startColumn)
  | some b => (b + m.breakSize, 1)

def lookup? (m : LineMap) (offset : Nat) : Option Position :=
  let stop := min offset (size m.source)
  let earlier := m.breaks.takeWhile (· < stop)
  let (first, column) := m.lineStart earlier
  (drop? first m.source).map fun line =>
    { line := Position.advance m.startLine earlier.length
      column := Position.advance column (startsBefore first stop line) }

theorem position_of_lookup? {m : LineMap} {offset : Nat} {p : Position}
    (found : m.lookup? offset = some p) : m.position offset = p := by
  obtain ⟨line, cut, rfl⟩ := Option.map_eq_some_iff.1 found
  have rest : (drop? (m.lineStart (m.breaks.takeWhile (· < min offset (size m.source)))).1
      m.source).getD [] = line := congrArg (Option.getD · []) cut
  rw [← rest]
  rfl

theorem lookup?_of_cut {m : LineMap} {offset first column count : Nat} {earlier : List Nat}
    {line : List Char}
    (before : m.breaks.takeWhile (· < min offset (size m.source)) = earlier)
    (begins : m.lineStart earlier = (first, column)) (cut : drop? first m.source = some line)
    (counted : startsBefore first (min offset (size m.source)) line = count) :
    m.lookup? offset = some
      ⟨Position.advance m.startLine earlier.length, Position.advance column count⟩ := by
  subst before counted
  simp only [lookup?, begins, cut, Option.map_some]

variable {lineBreak : Char} {start : Position} {source p r : List Char} {offset : Nat}

theorem lookup?_of_reaches (line : start.line ≤ Position.limit)
    (column : start.column ≤ Position.limit) (whole : source = p ++ r)
    (reaches : Text.Reaches (min offset (size source)) p) :
    (ofSource source start.line start.column lineBreak).lookup? offset =
      some (start.walk lineBreak p) := by
  have before : (ofSource source start.line start.column lineBreak).breaks.takeWhile
      (· < min offset (size source)) = occurrences lineBreak 0 p := by
    subst whole
    exact reaches.occurrences lineBreak r
  have lines : (start.walk lineBreak p).line =
      Position.advance start.line (occurrences lineBreak 0 p).length := by
    rw [length_occurrences, Position.line_walk line]
  by_cases member : lineBreak ∈ p
  · obtain ⟨q, t, rfl, absent⟩ := exists_last member
    -- The last break is the one before the line, and the column counts from there.
    have begins : (ofSource source start.line start.column lineBreak).lineStart
        (occurrences lineBreak 0 (q ++ lineBreak :: t)) = (size (q ++ [lineBreak]), 1) := by
      simp [lineStart, ofSource, occurrences_append, occurrences, occurrences_of_not_mem absent]
    have cut : drop? (size (q ++ [lineBreak])) source = some (t ++ r) := by
      simpa [whole] using Text.drop?_size_append (q ++ [lineBreak]) (t ++ r)
    have counted : startsBefore (size (q ++ [lineBreak])) (min offset (size source)) (t ++ r) =
        t.length := by
      refine startsBefore_append ?_ (fun u c v same => ?_) r
      · simpa [Nat.add_assoc] using reaches.le
      · have sooner := reaches.earlier (q ++ lineBreak :: u) c v (by simp [same])
        simpa [Nat.add_assoc] using sooner
    have columns : (start.walk lineBreak (q ++ lineBreak :: t)).column =
        Position.advance 1 t.length := by
      rw [Position.walk, List.foldl_append, List.foldl_cons, Position.past, if_pos rfl]
      exact Position.column_walk (p := ⟨_, 1⟩) Position.one_le_limit absent
    rw [lookup?_of_cut before begins cut counted]
    exact congrArg some (congr (congrArg Position.mk lines.symm) columns.symm)
  · have begins : (ofSource source start.line start.column lineBreak).lineStart
        (occurrences lineBreak 0 p) = (0, start.column) := by
      rw [occurrences_of_not_mem member]
      rfl
    have counted : startsBefore 0 (min offset (size source)) source = p.length := by
      rw [whole]
      refine startsBefore_append ?_ (fun q c u same => ?_) r
      · simpa [whole] using reaches.le
      · simpa [whole] using reaches.earlier q c u same
    have columns := Position.column_walk column member
    rw [lookup?_of_cut before begins (Text.drop?_zero _) counted]
    exact congrArg some (congr (congrArg Position.mk lines.symm) columns.symm)

structure Walks (m : LineMap) (lineBreak : Char) (start : Position) : Prop where
  breaks : m.breaks = Text.search (String.utf8EncodeChar lineBreak) 0 0 (bytes m.source)
  ascending : m.breaks.Pairwise (· < ·)
  found : ∀ index, ∃ p r, m.source = p ++ r ∧ min index (size m.source) ≤ size p ∧
    (∀ k, IsBoundary m.source k → min index (size m.source) ≤ k → size p ≤ k) ∧
    m.lookup? index = some (start.walk lineBreak p) ∧ m.position index = start.walk lineBreak p
  inside : ∀ p c r k, m.source = p ++ c :: r → size p < k → k ≤ size p + c.utf8Size →
    m.position k = m.position (size p + c.utf8Size)
  forward : ∀ i j, i ≤ j → start.line + m.breaks.countP (· < j) ≤ Position.limit →
    (m.position i).Precedes (m.position j)

section Walks

variable {k i j : Nat} {c : Char}

theorem position_of_reaches (line : start.line ≤ Position.limit)
    (column : start.column ≤ Position.limit) (whole : source = p ++ r)
    (reaches : Text.Reaches (min offset (size source)) p) :
    (ofSource source start.line start.column lineBreak).position offset =
      start.walk lineBreak p :=
  position_of_lookup? (lookup?_of_reaches line column whole reaches)

theorem position_inside (line : start.line ≤ Position.limit)
    (column : start.column ≤ Position.limit) (whole : source = p ++ c :: r) (lt : size p < k)
    (le : k ≤ size p + c.utf8Size) :
    (ofSource source start.line start.column lineBreak).position k =
      start.walk lineBreak (p ++ [c]) := by
  have split : source = (p ++ [c]) ++ r := by simpa using whole
  have within : min k (size source) = k := by
    rw [whole, Text.size_append, Text.size_cons]
    omega
  refine position_of_reaches line column split ?_
  rw [within]
  exact Text.reaches_of_inside lt le

theorem position_precedes (line : start.line ≤ Position.limit)
    (column : start.column ≤ Position.limit) (le : i ≤ j)
    (room : start.line + (occurrences lineBreak 0 source).countP (· < j) ≤ Position.limit) :
    ((ofSource source start.line start.column lineBreak).position i).Precedes
      ((ofSource source start.line start.column lineBreak).position j) := by
  obtain ⟨p, r, whole, reaches⟩ := Text.exists_reaches (Nat.min_le_right i (size source))
  obtain ⟨q, t, whole', reaches'⟩ := Text.exists_reaches (Nat.min_le_right j (size source))
  have same := whole.symm.trans whole'
  have sizes : size p ≤ size q := by
    have further := reaches'.le
    exact reaches.least (r := r) ⟨q, t, same, rfl⟩ (by omega)
  obtain ⟨u, rfl⟩ := Text.prefix_of_size_le ⟨r, same⟩ (List.prefix_append q t) sizes
  have onward : start.walk lineBreak (p ++ u) = (start.walk lineBreak p).walk lineBreak u :=
    List.foldl_append
  have passed := reaches'.count_le (Nat.min_le_left _ _) lineBreak t
  rw [← whole', List.count_append] at passed
  rw [position_of_reaches line column whole reaches,
    position_of_reaches line column whole' reaches', onward]
  refine Position.precedes_walk (Position.column_walk_le column) ?_
  rw [Position.line_walk line, Position.advance]
  omega

end Walks

/-- Positions are those of a walk, wherever the source is said to begin and whatever ends its
lines. -/
theorem position_eq_walk (source : List Char) (startLine startColumn : UInt32)
    (lineBreak : Char) :
    (ofSource source startLine.toNat startColumn.toNat lineBreak).Walks lineBreak
      ⟨startLine.toNat, startColumn.toNat⟩ := by
  have fits (n : UInt32) : n.toNat ≤ Position.limit := Nat.le_sub_one_of_lt n.toNat_lt
  let start : Position := ⟨startLine.toNat, startColumn.toNat⟩
  have line : start.line ≤ Position.limit := fits startLine
  have column : start.column ≤ Position.limit := fits startColumn
  constructor
  case breaks => exact Text.occurrences_eq_search lineBreak 0 source
  case ascending => exact occurrences_ascend lineBreak 0 source
  case found =>
    intro index
    obtain ⟨p, r, whole, reaches⟩ := Text.exists_reaches (Nat.min_le_right index (size source))
    have looked : (ofSource source start.line start.column lineBreak).lookup? index =
        some (start.walk lineBreak p) := lookup?_of_reaches line column whole reaches
    refine ⟨p, r, whole, reaches.le, fun k boundary le => ?_, looked, position_of_lookup? looked⟩
    exact reaches.least (whole ▸ boundary) le
  case inside =>
    intro p c r k whole lt le
    have positive := c.utf8Size_pos
    have ended : (ofSource source start.line start.column lineBreak).position
        (size p + c.utf8Size) = start.walk lineBreak (p ++ [c]) :=
      position_inside line column whole (Nat.lt_add_of_pos_right positive) (Nat.le_refl _)
    exact (position_inside line column whole lt le).trans ended.symm
  case forward =>
    intro i j le room
    exact position_precedes line column le room

theorem position_inside_letter :
    let source := ['a', 'é', '\u2028', 'b']
    let m := ofSource source (7 : UInt32).toNat (3 : UInt32).toNat '\u2028'
    source = ['a'] ++ 'é' :: ['\u2028', 'b'] ∧ size ['a'] < 2 ∧ 2 ≤ size ['a'] + 'é'.utf8Size ∧
      m.position 2 = m.position 3 ∧
      (∃ p r, source = p ++ r ∧ IsBoundary source 3 ∧ size p ≤ 3) ∧
      (7 : UInt32).toNat + m.breaks.countP (· < 6) ≤ Position.limit ∧
      (m.position 2).Precedes (m.position 6) := by
  intro source m
  have walks := position_eq_walk source 7 3 '\u2028'
  obtain ⟨p, r, whole, -, least, -⟩ := walks.found 2
  have boundary : IsBoundary source 3 := ⟨['a', 'é'], ['\u2028', 'b'], rfl, by decide⟩
  refine ⟨rfl, by decide, by decide, ?_, ⟨p, r, whole, boundary, ?_⟩, by decide, ?_⟩
  · exact walks.inside ['a'] 'é' ['\u2028', 'b'] 2 rfl (by decide) (by decide)
  · exact least 3 boundary (by decide)
  · exact walks.forward 2 6 (by decide) (by decide)

end LineMap

end Descent
