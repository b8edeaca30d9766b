import Mathlib.Data.List.Sort
import Mathlib.Data.String.Basic
import Descent.Proofs.Diagnostic.Bracketing
import Descent.Proofs.Parser.Combinators
import Descent.Proofs.Parser.State

set_option autoImplicit false

namespace Descent

namespace Detail

variable {xs ys : List String} {x : String} {d e f : Detail}

theorem mem_squeeze : x ∈ squeeze xs ↔ x ∈ xs := by
  induction xs using squeeze.induct with
  | case1 => rfl
  | case2 y => rfl
  | case3 y ys ih =>
    rw [squeeze, if_pos rfl, ih]
    simp
  | case4 y z ys other ih =>
    rw [squeeze, if_neg other, List.mem_cons, ih, ← List.mem_cons]

theorem pairwise_squeeze (ascending : xs.Pairwise (· ≤ ·)) : (squeeze xs).Pairwise (· < ·) := by
  induction xs using squeeze.induct with
  | case1 => exact .nil
  | case2 y => exact List.pairwise_singleton ..
  | case3 y ys ih =>
    rw [squeeze, if_pos rfl]
    exact ih ascending.of_cons
  | case4 y z ys other ih =>
    obtain ⟨least, rest⟩ := List.pairwise_cons.1 ascending
    rw [squeeze, if_neg other]
    refine List.pairwise_cons.2 ⟨fun w member => ?_, ih rest⟩
    have first : y < z := lt_of_le_of_ne (least z List.mem_cons_self) other
    rcases List.mem_cons.1 (mem_squeeze.1 member) with rfl | later
    next => exact first
    next => exact lt_of_lt_of_le first (List.rel_of_pairwise_cons rest later)

theorem mem_sorted : x ∈ sorted xs ↔ x ∈ xs := by
  rw [sorted, mem_squeeze, List.mem_mergeSort]

theorem pairwise_sorted (xs : List String) : (sorted xs).Pairwise (· < ·) :=
  pairwise_squeeze (List.pairwise_mergeSort' (· ≤ ·) xs)

theorem sorted_congr (same : ∀ x, x ∈ xs ↔ x ∈ ys) : sorted xs = sorted ys := by
  apply (pairwise_sorted xs).eq_of_mem_iff (pairwise_sorted ys)
  intro x
  rw [mem_sorted, mem_sorted, same]

structure Matches (d e : Detail) : Prop where
  index : d.index = e.index
  encountered : d.encountered = e.encountered
  unexpected : d.unexpected = e.unexpected
  messages : d.messages = e.messages
  expecting : ∀ l, l ∈ d.expecting ↔ l ∈ e.expecting

namespace Matches

theorem refl (d : Detail) : d.Matches d := ⟨rfl, rfl, rfl, rfl, fun _ => Iff.rfl⟩

theorem render (same : d.Matches e) (p : Position) : d.render p = e.render p := by
  unfold Detail.render
  rw [sorted_congr same.expecting, same.unexpected, same.messages, same.encountered]

theorem rank (same : d.Matches e) : d.rank = e.rank := by
  have none : d.expecting = [] ↔ e.expecting = [] := by
    rw [List.eq_nil_iff_forall_not_mem, List.eq_nil_iff_forall_not_mem]
    exact forall_congr' fun l => not_congr (same.expecting l)
  have bare : d.expecting.isEmpty = e.expecting.isEmpty := by
    rw [Bool.eq_iff_iff, List.isEmpty_iff, List.isEmpty_iff, none]
  rw [Detail.rank, Detail.rank, bare, same.unexpected, same.messages]

theorem append (same : d.Matches e) (f : Detail) : (f.append d).Matches (f.append e) where
  index := rfl
  encountered := congrArg f.encountered.or same.encountered
  unexpected := congrArg (f.unexpected ++ ·) same.unexpected
  messages := congrArg (f.messages ++ ·) same.messages
  expecting l := by
    simp only [Detail.append, List.mem_append, same.expecting]

theorem merge (same : d.Matches e) (f : Detail) : (f.merge d).Matches (f.merge e) := by
  unfold Detail.merge
  rw [same.index, same.rank]
  split
  next =>
    split
    next => exact .refl f
    next => exact same
  next =>
    split
    next =>
      split
      next => exact .refl f
      next => exact same
    next =>
      split
      next => exact .refl f
      next =>
        rw [both_eq_append, both_eq_append]
        exact same.append f

end Matches

theorem merge?_assoc (x y z : Option Detail) : merge? (merge? x y) z = merge? x (merge? y z) := by
  have alone (x : Option Detail) : x = summary x.toList := by
    cases x with
    | none => rfl
    | some d => exact (summary_singleton d).symm
  rw [alone x, alone y, alone z]
  simp only [summary_append, List.append_assoc]

end Detail

def Window.missing (w : Window) (k : Nat) (labels : List String) : Detail where
  index := k
  encountered := some (match w.rest k with
    | [] => endMarker
    | c :: _ => Text.escapeBare c)
  expecting := labels

variable {β : Type} {env : Env} {w : Window} {n k : Nat} {s : State β}

theorem Window.merge_missing (l l' : String) (ls : List String) :
    (w.missing k [l]).merge (w.missing k (l' :: ls)) = w.missing k (l :: l' :: ls) := by
  simp [Detail.merge, Detail.rank, missing, Detail.append]

theorem Window.summary_missing {ls : List String} (some_l : ls ≠ []) :
    Detail.summary (ls.map fun l => w.missing k [l]) = some (w.missing k ls) := by
  induction ls with
  | nil => exact absurd rfl some_l
  | cons l ls ih =>
    cases ls with
    | nil => exact Detail.summary_singleton _
    | cons l' ls =>
      rw [List.map_cons, ← List.singleton_append, ← Detail.summary_append,
        Detail.summary_singleton, ih (List.cons_ne_nil l' ls)]
      exact congrArg some (merge_missing l l' ls)

theorem Diagnostic.id_merge?_le {id : Nat} {x y : Option Diagnostic} {f : Diagnostic}
    (merged : merge? id x y = some f) (first : ∀ d, x = some d → d.id ≤ id)
    (second : ∀ d, y = some d → d.id ≤ id) : f.id ≤ id := by
  rcases merge?_cases id merged with only | only | ⟨d, e, left, right, rfl⟩
  · exact first f only
  · exact second f only
  · rcases merge_cases id d e with same | same | new
    · rw [same]
      exact first d left
    · rw [same]
      exact second e right
    · exact Nat.le_of_eq new

structure State.Genuine (s : State β) : Prop where
  genuine : ∀ d, s.error = some d → d.Genuine
  given : ∀ d, s.error = some d → d.id < s.nextId

namespace Action

theorem pattern_misses (input : env.input = .chars w) {p : Pattern}
    (misses : (w.rest? s.offset).bind p.run = none) (l : String) :
    ∃ t, (pattern p l).run env s = ⟨.error .fail, t⟩ ∧ t.cursor = s.cursor ∧
      t.error = some (.leaf (s.nextId + 1) (w.missing s.offset [l])) ∧
        t.nextId = s.nextId + 2 := by
  obtain ⟨_, origin, positions⟩ := env
  dsimp only at input
  subst input
  refine ⟨_, ?_, State.reject_cursor ⟨.chars w, origin, positions⟩ s (.instead l), rfl, rfl⟩
  simp [run, pattern, Env.window, misses, fail]

theorem mergeError_leaf (sound : s.Genuine) {t : State β} {d : Detail} {id : Nat}
    (left : t.error = some (.leaf id d)) (first : s.nextId ≤ id) (next : id < t.nextId) :
    (t.mergeError s.error).Genuine ∧ (t.mergeError s.error).error.map Diagnostic.detail =
      Detail.merge? (s.error.map Diagnostic.detail) (some d) := by
  have new : ∀ e, t.error = some e → e = .leaf id d := by
    intro e after
    exact Option.some.inj (after.symm.trans left)
  have genuine : ∀ e, t.error = some e → e.Genuine := by
    intro e after
    rw [new e after]
    exact Diagnostic.genuine_leaf id d
  have apart : ∀ e e', s.error = some e → t.error = some e' → e.id ≠ e'.id := by
    intro e e' before after
    rw [new e' after]
    exact Nat.ne_of_lt (Nat.lt_of_lt_of_le (sound.given e before) first)
  refine ⟨⟨Diagnostic.genuine_merge? sound.genuine genuine t.nextId, fun e merged => ?_⟩, ?_⟩
  · apply Nat.lt_succ_of_le
    apply Diagnostic.id_merge?_le merged
    next =>
      intro e before
      have old := sound.given e before
      omega
    next =>
      intro e after
      rw [new e after]
      exact Nat.le_of_lt next
  · have both := Diagnostic.detail_merge? sound.genuine genuine t.nextId apart
    rw [left] at both
    rw [State.mergeError, left]
    exact both

theorem sumFrom_misses (input : env.input = .chars w) {ps : List (Pattern × String)}
    (misses : ∀ x ∈ ps, (w.rest? s.offset).bind x.1.run = none) (sound : s.Genuine) :
    ∃ t, sumFrom env n s.cursor (ps.map fun x => pattern x.1 x.2) s = ⟨.error .fail, t⟩ ∧
      t.cursor = s.cursor ∧ t.error.map Diagnostic.detail =
        Detail.merge? (s.error.map Diagnostic.detail)
          (Detail.summary ((ps.map Prod.snd).map fun l => w.missing s.offset [l])) := by
  induction ps generalizing s with
  | nil =>
    refine ⟨s, rfl, rfl, ?_⟩
    cases s.error <;> rfl
  | cons x ps ih =>
    obtain ⟨here, later⟩ := List.forall_mem_cons.1 misses
    obtain ⟨t, failed, still, left, next⟩ := pattern_misses input here x.2
    have uncommitted : t.cursor.committedFrom s.cursor n = false := by
      simp [still, Cursor.committedFrom, Cursor.movedFrom]
    obtain ⟨⟨genuine, given⟩, merged⟩ :=
      mergeError_leaf sound left (Nat.le_succ _) (next ▸ Nat.lt_succ_self _)
    let u := (t.mergeError s.error).restore s.cursor
    obtain ⟨v, others, back, said⟩ := ih (s := u) later ⟨genuine, given⟩
    change v.error.map Diagnostic.detail = Detail.merge? ((t.mergeError s.error).error.map _)
      (Detail.summary ((ps.map Prod.snd).map fun l => w.missing s.offset [l])) at said
    refine ⟨v, ?_, back, ?_⟩
    · rw [List.map_cons, sumFrom, failed]
      simp only [orElse, uncommitted, Bool.false_eq_true, if_false]
      exact others
    · rw [said, merged, Detail.merge?_assoc, ← Detail.summary_singleton (w.missing _ _),
        Detail.summary_append]
      rfl

end Action

namespace Parser

def patterns (ps : List (Pattern × String)) : List (Parser β .unit) :=
  ps.map fun x => .pattern x.1 x.2

theorem eval_plus_patterns (calls : Calls β) (ps : List (Pattern × String)) :
    (plus (patterns ps)).eval calls = Action.sum (ps.map fun x => Action.pattern x.1 x.2) := by
  rw [eval_plus, patterns, List.flatMap_map]
  exact congrArg Action.sum List.map_eq_flatMap.symm

theorem missing_matches {ps qs : List (Pattern × String)} (same : ∀ x, x ∈ ps ↔ x ∈ qs) :
    (w.missing k (ps.map Prod.snd)).Matches (w.missing k (qs.map Prod.snd)) where
  index := rfl
  encountered := rfl
  unexpected := rfl
  messages := rfl
  expecting l := by simp [Window.missing, same]

theorem plus_patterns_misses (calls : Calls β) (input : env.input = .chars w)
    {ps : List (Pattern × String)} (some_p : ps ≠ [])
    (misses : ∀ x ∈ ps, (w.rest? s.offset).bind x.1.run = none) (sound : s.Genuine) (n : Nat) :
    ∃ t d, (plus (patterns ps)).eval calls env n s = ⟨.error .fail, t⟩ ∧ t.cursor = s.cursor ∧
      t.error = some d ∧ some d.detail = Detail.merge? (s.error.map Diagnostic.detail)
        (some (w.missing s.offset (ps.map Prod.snd))) := by
  obtain ⟨t, failed, back, said⟩ := Action.sumFrom_misses (n := n) input misses sound
  rw [Window.summary_missing (mt List.map_eq_nil_iff.1 some_p)] at said
  have somewhere : t.error.isSome = true := by
    rw [← Option.isSome_map, said]
    cases s.error <;> rfl
  obtain ⟨d, left⟩ := Option.isSome_iff_exists.1 somewhere
  rw [left] at said
  refine ⟨t, d, ?_, back, left, said⟩
  rw [eval_plus_patterns]
  exact failed

/-- An alternation of patterns of which none is there reports the same if the patterns come in
another order or more than once. -/
theorem order_of_patterns_not_shown (calls : Calls β) (input : env.input = .chars w)
    (made : ∀ d, s.error = some d → ∃ c : Complaint, c.tree = some d)
    (given : ∀ d, s.error = some d → d.id < s.nextId) {ps qs : List (Pattern × String)}
    (same : ∀ x, x ∈ ps ↔ x ∈ qs) (misses : ∀ x ∈ ps, (w.rest? s.offset).bind x.1.run = none)
    (n : Nat) :
    let o := (plus (patterns ps)).eval calls env n s
    let o' := (plus (patterns qs)).eval calls env n s
    o.reply = .error .fail ∧ o'.reply = .error .fail ∧ (ps ≠ [] → o.state.error.isSome) ∧
      o.state.error.map Diagnostic.index = o'.state.error.map Diagnostic.index ∧
      ∀ p : Position, o.state.error.map (fun d => d.detail.render p) =
        o'.state.error.map fun d => d.detail.render p := by
  intro o o'
  have sound : s.Genuine := by
    refine ⟨fun d left => ?_, given⟩
    obtain ⟨c, tree⟩ := made d left
    exact Complaint.genuine_tree tree
  by_cases some_p : ps = []
  next =>
    obtain rfl : qs = [] := by
      rw [List.eq_nil_iff_forall_not_mem]
      intro x member
      rw [← same x, some_p] at member
      cases member
    subst some_p
    exact ⟨rfl, rfl, fun other => absurd rfl other, rfl, fun p => rfl⟩
  next =>
    have some_q : qs ≠ [] := by
      obtain ⟨x, member⟩ := List.exists_mem_of_ne_nil ps some_p
      exact List.ne_nil_of_mem ((same x).1 member)
    obtain ⟨t, d, ran, -, left, said⟩ := plus_patterns_misses calls input some_p misses sound n
    obtain ⟨t', d', ran', -, left', said'⟩ := plus_patterns_misses calls input some_q
      (fun x member => misses x ((same x).2 member)) sound n
    have reported : d.detail.Matches d'.detail := by
      have labels := missing_matches (w := w) (k := s.offset) same
      cases before : s.error with
      | none =>
        rw [before] at said said'
        rw [Option.some.inj said, Option.some.inj said']
        exact labels
      | some e =>
        rw [before] at said said'
        rw [Option.some.inj said, Option.some.inj said']
        exact labels.merge e.detail
    have index := reported.index
    rw [Diagnostic.index_detail, Diagnostic.index_detail] at index
    simp only [o, o', ran, ran', left, left', Option.isSome_some, Option.map_some, index,
      reported.render, implies_true, and_self]

theorem terms_in_any_order :
    let env := Env.ofText "+".toList "line" (PositionMap.ofSource "+".toList)
    let s : State Nat := { (env.stateAt .start : State Nat) with
      error := some (.message 0 0 "a term was left out"), nextId := 1 }
    let letter : Pattern × String := (.inClass CharClass.alpha, "letter")
    let digit : Pattern × String := (.inClass CharClass.digit, "digit")
    let group : Pattern × String := (.text ['(', ' '], "(")
    let o := (plus (patterns [letter, digit, group])).eval (Rules.calls [] 0) env 1 s
    let o' := (plus (patterns [group, letter, group, digit])).eval (Rules.calls [] 0) env 1 s
    o.reply = .error .fail ∧ o'.reply = .error .fail ∧ o.state.error.isSome ∧
      o.state.error.map Diagnostic.index = o'.state.error.map Diagnostic.index ∧
      ∀ p : Position, o.state.error.map (fun d => d.detail.render p) =
        o'.state.error.map fun d => d.detail.render p := by
  intro env s letter digit group o o'
  have made : ∀ d, s.error = some d → ∃ c : Complaint, c.tree = some d := by
    intro d left
    exact ⟨.message 0 0 "a term was left out", left⟩
  have given : ∀ d, s.error = some d → d.id < s.nextId := by
    intro d left
    cases left
    exact Nat.zero_lt_one
  have same : ∀ x, x ∈ [letter, digit, group] ↔ x ∈ [group, letter, group, digit] := by
    intro x
    simp only [List.mem_cons, List.not_mem_nil, or_false]
    tauto
  have misses : ∀ x ∈ [letter, digit, group],
      ((Window.make "+".toList 1).rest? 0).bind x.1.run = none := by decide +kernel
  obtain ⟨failed, failed', reported, index, text⟩ := order_of_patterns_not_shown
    (Rules.calls [] 0) (rfl : env.input = .chars (Window.make "+".toList 1)) made given same
    misses 1
  exact ⟨failed, failed', reported (List.cons_ne_nil _ _), index, text⟩

end Parser

end Descent
