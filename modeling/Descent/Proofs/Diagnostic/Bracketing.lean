import Mathlib.Data.List.ReduceOption
import Descent.Proofs.Diagnostic.Record

set_option autoImplicit false

namespace Descent

namespace Detail

variable {top : Nat} {d e : Detail} {ds es : List Detail}

def concat (index : Nat) (ds : List Detail) : Detail where
  index := index
  encountered := ds.findSome? (·.encountered)
  unexpected := ds.flatMap (·.unexpected)
  expecting := ds.flatMap (·.expecting)
  messages := ds.flatMap (·.messages)

def digest (index : Nat) (ds : List Detail) : Option Detail :=
  let telling := ds.filter (·.rank = 2)
  if telling = [] then ds.head? else some (concat index telling)

/-- What is merged in order comes to the details at the largest index, and of them to those of rank
two, or to the first one if there is none. -/
def summary (ds : List Detail) : Option Detail :=
  (ds.map (·.index)).max?.bind fun top => digest top (ds.filter (·.index = top))

@[simp] theorem concat_singleton (d : Detail) : concat d.index [d] = d := by
  cases d
  simp [concat]

theorem concat_append :
    concat top (ds ++ es) = (concat top ds).append (concat top es) := by
  simp [concat, append, List.findSome?_append]

theorem rank_concat (member : d ∈ ds) (telling : d.rank = 2) : (concat top ds).rank = 2 := by
  apply rank_eq_two
  intro bare
  obtain ⟨expecting, unexpected, messages⟩ := (rank_eq_one_iff _).1 bare
  have bareHere : d.rank = 1 := (rank_eq_one_iff d).2
    ⟨List.flatMap_eq_nil_iff.1 expecting d member, List.flatMap_eq_nil_iff.1 unexpected d member,
      List.flatMap_eq_nil_iff.1 messages d member⟩
  omega

theorem merge_level (level : d.index = e.index) :
    d.merge e =
      if e.rank < d.rank then d else if d.rank < e.rank then e
      else if d.rank = 1 then d else d.append e := by
  unfold merge
  rw [if_neg (not_not.2 level)]
  by_cases equal : d.rank = e.rank
  next => simp [equal]
  next =>
    rw [if_pos equal]
    split
    next => rfl
    next => rw [if_pos (by omega)]

theorem digest_cases (some_d : ds ≠ []) (here : ∀ d ∈ ds, d.index = top) :
    ∃ d, digest top ds = some d ∧ d.index = top ∧
      (ds.filter (·.rank = 2) = [] ∧ d.rank = 1 ∧ ds.head? = some d ∨
        ds.filter (·.rank = 2) ≠ [] ∧ d.rank = 2 ∧ d = concat top (ds.filter (·.rank = 2))) := by
  by_cases telling : ds.filter (·.rank = 2) = []
  next =>
    obtain ⟨d, rest, rfl⟩ := List.exists_cons_of_ne_nil some_d
    have bare : d.rank = 1 := by
      by_contra more
      have kept : d ∈ (d :: rest).filter (·.rank = 2) := by simp [rank_eq_two d more]
      rw [telling] at kept
      cases kept
    refine ⟨d, by simp [digest, telling], here d List.mem_cons_self, .inl ⟨telling, bare, rfl⟩⟩
  next =>
    obtain ⟨d, member⟩ := List.exists_mem_of_ne_nil _ telling
    have rank : d.rank = 2 := by simpa using (List.mem_filter.1 member).2
    refine ⟨_, by simp [digest, telling], rfl, .inr ⟨telling, rank_concat member rank, rfl⟩⟩

theorem digest_append (some_d : ds ≠ []) (some_e : es ≠ []) (first : ∀ d ∈ ds, d.index = top)
    (second : ∀ e ∈ es, e.index = top) :
    merge? (digest top ds) (digest top es) = digest top (ds ++ es) := by
  obtain ⟨d, left, atD, casesD⟩ := digest_cases some_d first
  obtain ⟨e, right, atE, casesE⟩ := digest_cases some_e second
  rw [left, right, merge?, merge_level (atD.trans atE.symm), digest, List.filter_append]
  obtain ⟨noneD, rankD, headD⟩ | ⟨tellingD, rankD, wholeD⟩ := casesD <;>
    obtain ⟨noneE, rankE, headE⟩ | ⟨tellingE, rankE, wholeE⟩ := casesE
  · simp [noneD, noneE, rankD, rankE, List.head?_append, headD]
  · simp [noneD, tellingE, rankD, rankE, ← wholeE]
  · simp [noneE, tellingD, rankD, rankE, ← wholeD]
  · simp [tellingD, rankD, rankE, concat_append, ← wholeD, ← wholeE]

structure Largest (ds : List Detail) (top : Nat) : Prop where
  reached : ∃ d ∈ ds, d.index = top
  le : ∀ d ∈ ds, d.index ≤ top

theorem exists_largest (some_d : ds ≠ []) : ∃ top, Largest ds top := by
  cases largest : (ds.map (·.index)).max? with
  | none => simp [some_d] at largest
  | some top =>
    obtain ⟨reached, le⟩ := List.max?_eq_some_iff.1 largest
    exact ⟨top, by simpa using reached, by simpa using le⟩

namespace Largest

variable {m n : Nat}

theorem summary_eq (largest : Largest ds top) :
    summary ds = digest top (ds.filter (·.index = top)) := by
  have last : (ds.map (·.index)).max? = some top := by
    apply List.max?_eq_some_iff.2
    exact ⟨by simpa using largest.reached, by simpa using largest.le⟩
  rw [summary, last, Option.bind_some]

theorem some_last (largest : Largest ds top) : ds.filter (·.index = top) ≠ [] := by
  obtain ⟨d, member, here⟩ := largest.reached
  exact List.ne_nil_of_mem (List.mem_filter.2 ⟨member, by simp [here]⟩)

theorem exists_summary (largest : Largest ds top) : ∃ d, summary ds = some d ∧ d.index = top := by
  have last : ∀ d ∈ ds.filter (·.index = top), d.index = top := by simp
  obtain ⟨d, whole, here, -⟩ := digest_cases largest.some_last last
  exact ⟨d, largest.summary_eq.trans whole, here⟩

theorem append (first : Largest ds m) (second : Largest es n) : Largest (ds ++ es) (max m n) := by
  constructor
  next =>
    obtain ⟨d, memberD, atD⟩ := first.reached
    obtain ⟨e, memberE, atE⟩ := second.reached
    by_cases le : m ≤ n
    next => exact ⟨e, List.mem_append_right ds memberE, by omega⟩
    next => exact ⟨d, List.mem_append_left es memberD, by omega⟩
  next =>
    intro d member
    rcases List.mem_append.1 member with member | member
    next => exact Nat.le_trans (first.le d member) (Nat.le_max_left m n)
    next => exact Nat.le_trans (second.le d member) (Nat.le_max_right m n)

theorem none_beyond (largest : Largest ds m) (less : m < n) : ds.filter (·.index = n) = [] := by
  apply List.filter_eq_nil_iff.2
  intro d member
  have le := largest.le d member
  simp only [decide_eq_true_eq]
  omega

end Largest

@[simp] theorem summary_singleton (d : Detail) : summary [d] = some d := by
  by_cases telling : d.rank = 2 <;> simp [summary, digest, telling]

theorem summary_append (ds es : List Detail) :
    merge? (summary ds) (summary es) = summary (ds ++ es) := by
  by_cases noneD : ds = []
  next => simp [noneD, summary, merge?]
  by_cases noneE : es = []
  next =>
    rw [noneE, List.append_nil]
    cases summary ds <;> rfl
  obtain ⟨m, lastD⟩ := exists_largest noneD
  obtain ⟨n, lastE⟩ := exists_largest noneE
  obtain ⟨d, left, atD⟩ := lastD.exists_summary
  obtain ⟨e, right, atE⟩ := lastE.exists_summary
  have whole := (lastD.append lastE).summary_eq
  rw [List.filter_append] at whole
  rcases Nat.lt_trichotomy m n with less | rfl | less
  case inl =>
    rw [Nat.max_eq_right (Nat.le_of_lt less), lastD.none_beyond less, List.nil_append,
      ← lastE.summary_eq] at whole
    rw [whole, left, right]
    simp only [merge?, merge, atD, atE]
    rw [if_pos (Nat.ne_of_lt less), if_neg (Nat.lt_asymm less)]
  case inr.inl =>
    rw [Nat.max_self] at whole
    rw [whole, lastD.summary_eq, lastE.summary_eq]
    apply digest_append lastD.some_last lastE.some_last <;> simp
  case inr.inr =>
    rw [Nat.max_eq_left (Nat.le_of_lt less), lastE.none_beyond less, List.append_nil,
      ← lastD.summary_eq] at whole
    rw [whole, left, right]
    simp only [merge?, merge, atD, atE]
    rw [if_pos (Nat.ne_of_gt less), if_pos less]

end Detail

open Diagnostic

inductive Bracketing where
  | member (d : Option Diagnostic)
  | merge (first second : Bracketing)
  deriving DecidableEq, Repr

namespace Bracketing

def members : Bracketing → List (Option Diagnostic)
  | member d => [d]
  | merge a b => a.members ++ b.members

def value : Bracketing → Nat → Option Diagnostic × Nat
  | member d, n => (d, n)
  | merge a b, n =>
    let (d, n) := a.value n
    let (e, n) := b.value n
    (Diagnostic.merge? n d e, n + 1)

variable {a b : Bracketing} {d e : Diagnostic} {n : Nat}

theorem le_next (b : Bracketing) (n : Nat) : n ≤ (b.value n).2 := by
  induction b generalizing n with
  | member d => exact Nat.le_refl n
  | merge a b ihA ihB => exact Nat.le_succ_of_le (Nat.le_trans (ihA n) (ihB _))

-- A member, or a node that one of the merges has made.
def Owns (b : Bracketing) (n : Nat) (d : Diagnostic) : Prop :=
  some d ∈ b.members ∨ n ≤ d.id ∧ d.id < (b.value n).2

theorem Owns.left (owns : a.Owns n d) : (merge a b).Owns n d := by
  rcases owns with member | ⟨le, lt⟩
  case inl => exact .inl (List.mem_append_left _ member)
  case inr =>
    have later := b.le_next (a.value n).2
    exact .inr ⟨le, Nat.lt_succ_of_le (Nat.le_trans (Nat.le_of_lt lt) later)⟩

theorem Owns.right (owns : b.Owns (a.value n).2 d) : (merge a b).Owns n d := by
  rcases owns with member | ⟨le, lt⟩
  case inl => exact .inl (List.mem_append_right _ member)
  case inr => exact .inr ⟨Nat.le_trans (a.le_next n) le, Nat.lt_succ_of_lt lt⟩

theorem owns_value (value : (b.value n).1 = some d) : b.Owns n d := by
  induction b generalizing n d with
  | member e =>
    left
    exact List.mem_singleton.2 value.symm
  | merge a b ihA ihB =>
    rcases merge?_cases _ value with only | only | ⟨d₁, d₂, first, second, rfl⟩
    case inl => exact (ihA only).left
    case inr.inl => exact (ihB only).right
    case inr.inr =>
      rcases merge_cases (b.value (a.value n).2).2 d₁ d₂ with same | same | new
      case inl => rw [same]; exact (ihA first).left
      case inr.inl => rw [same]; exact (ihB second).right
      case inr.inr =>
        right
        rw [new]
        exact ⟨Nat.le_trans (a.le_next n) (b.le_next _), Nat.lt_succ_self _⟩

theorem apart (different : ((a.members ++ b.members).reduceOption.map Diagnostic.id).Nodup)
    (old : ∀ d, some d ∈ a.members ++ b.members → d.id < n)
    (left : (a.value n).1 = some d) (right : (b.value (a.value n).2).1 = some e) :
    d.id ≠ e.id := by
  intro same
  have later := a.le_next n
  rcases owns_value left with memberD | ⟨leD, ltD⟩ <;>
    rcases owns_value right with memberE | ⟨leE, ltE⟩
  · rw [List.reduceOption_append, List.map_append, List.nodup_append'] at different
    apply different.2.2 (List.mem_map_of_mem (List.reduceOption_mem_iff.2 memberD))
    rw [same]
    exact List.mem_map_of_mem (List.reduceOption_mem_iff.2 memberE)
  · have ltD := old d (List.mem_append_left _ memberD)
    omega
  · have ltE := old e (List.mem_append_right _ memberE)
    omega
  · omega

theorem genuine_value (genuine : ∀ d, some d ∈ b.members → d.Genuine) :
    ∀ d, (b.value n).1 = some d → d.Genuine := by
  induction b generalizing n with
  | member e =>
    intro d value
    exact genuine d (List.mem_singleton.2 value.symm)
  | merge a b ihA ihB =>
    apply genuine_merge?
    next => exact ihA fun d member => genuine d (List.mem_append_left _ member)
    next => exact ihB fun d member => genuine d (List.mem_append_right _ member)

theorem detail_value (genuine : ∀ d, some d ∈ b.members → d.Genuine)
    (different : (b.members.reduceOption.map Diagnostic.id).Nodup)
    (old : ∀ d, some d ∈ b.members → d.id < n) :
    (b.value n).1.map detail = Detail.summary (b.members.reduceOption.map detail) := by
  induction b generalizing n with
  | member d =>
    cases d with
    | none => rfl
    | some d => exact (Detail.summary_singleton _).symm
  | merge a b ihA ihB =>
    have genuineA d (member : some d ∈ a.members) := genuine d (List.mem_append_left _ member)
    have genuineB d (member : some d ∈ b.members) := genuine d (List.mem_append_right _ member)
    have different' := different
    simp only [members, List.reduceOption_append, List.map_append, List.nodup_append'] at different'
    have left := ihA genuineA different'.1 fun d member => old d (List.mem_append_left _ member)
    have right := ihB (n := (a.value n).2) genuineB different'.2.1 fun d member =>
      Nat.lt_of_lt_of_le (old d (List.mem_append_right _ member)) (a.le_next n)
    rw [members, List.reduceOption_append, List.map_append, ← Detail.summary_append, ← left,
      ← right]
    apply detail_merge? (genuine_value genuineA) (genuine_value genuineB)
    intro d e first second
    exact apart different old first second

/-- However diagnostics are bracketed, merging them in their order says the same. -/
theorem detail_independent_of_brackets (ds : List (Option Diagnostic)) (n : Nat)
    (made : ∀ d, some d ∈ ds → ∃ c : Complaint, c.tree = some d)
    (different : (ds.reduceOption.map Diagnostic.id).Nodup)
    (old : ∀ d, some d ∈ ds → d.id < n) (b : Bracketing) (order : b.members = ds) :
    (b.value n).1.map detail = Detail.summary (ds.reduceOption.map detail) := by
  subst order
  refine detail_value (fun d member => ?_) different old
  obtain ⟨c, tree⟩ := made d member
  exact Complaint.genuine_tree tree

theorem term_and_message_in_brackets :
    let cs : List Complaint := [.encountered 0 5 "x", .nothing,
      .relabel 2 "term" (.encountered 1 5 "y"), .message 3 2 "far", .message 4 5 "boom"]
    let ds := cs.map Complaint.tree
    let x (i : Nat) : Bracketing := .member (ds.getD i none)
    let b : Bracketing := .merge (.merge (x 0) (x 1)) (.merge (x 2) (.merge (x 3) (x 4)))
    (∀ d, some d ∈ ds → ∃ c : Complaint, c.tree = some d) ∧
      (ds.reduceOption.map Diagnostic.id).Nodup ∧ (∀ d, some d ∈ ds → d.id < 5) ∧
      b.members = ds ∧ (b.value 5).1.map detail = some ⟨5, some "y", [], ["term"], ["boom"]⟩ := by
  intro cs ds x b
  have made : ∀ d, some d ∈ ds → ∃ c : Complaint, c.tree = some d := by
    intro d member
    obtain ⟨c, -, tree⟩ := List.mem_map.1 member
    exact ⟨c, tree⟩
  have different : (ds.reduceOption.map Diagnostic.id).Nodup := by decide
  have old : ∀ d, some d ∈ ds → d.id < 5 := by
    intro d member
    have listed : d.id ∈ ds.reduceOption.map Diagnostic.id :=
      List.mem_map_of_mem (List.reduceOption_mem_iff.2 member)
    have all : ∀ i ∈ ds.reduceOption.map Diagnostic.id, i < 5 := by decide
    exact all d.id listed
  refine ⟨made, different, old, rfl, ?_⟩
  rw [detail_independent_of_brackets ds 5 made different old b rfl]
  decide

end Bracketing

end Descent
