import Mathlib.Data.List.Nodup
import Descent.Proofs.Diagnostic.Merge

set_option autoImplicit false

namespace Descent

namespace Detail

variable (d e : Detail) (l : String)

theorem rank_eq_one_iff :
    d.rank = 1 ↔ d.expecting = [] ∧ d.unexpected = [] ∧ d.messages = [] := by
  simp [rank, List.isEmpty_iff, and_assoc]

theorem rank_eq_two (more : d.rank ≠ 1) : d.rank = 2 := by
  unfold rank at more ⊢
  split
  next bare => exact absurd (if_pos bare) more
  next => rfl

@[simp] theorem index_append : (d.append e).index = d.index := rfl

@[simp] theorem index_relabel : (d.relabel l).index = d.index := rfl

@[simp] theorem rank_relabel : (d.relabel l).rank = 2 := by simp [rank, relabel]

theorem rank_append (more : d.rank ≠ 1) : (d.append e).rank = d.rank := by
  rw [rank_eq_two d more]
  apply rank_eq_two
  rw [Ne, rank_eq_one_iff] at more ⊢
  simp only [append, List.append_eq_nil_iff]
  tauto

def both : Detail where
  index := d.index
  encountered :=
    match d.encountered with
    | some what => some what
    | none => e.encountered
  unexpected := d.unexpected ++ e.unexpected
  expecting := d.expecting ++ e.expecting
  messages := d.messages ++ e.messages

@[simp] theorem both_eq_append : d.both e = d.append e := by
  unfold both append
  cases d.encountered <;> rfl

def merge : Detail :=
  if d.index ≠ e.index then
    if e.index < d.index then d else e
  else if d.rank ≠ e.rank then
    if e.rank < d.rank then d else e
  else if d.rank = 1 then d
  else d.both e

def merge? : Option Detail → Option Detail → Option Detail
  | some d, some e => some (d.merge e)
  | d, e => d.or e

end Detail

namespace Diagnostic

variable {d e : Diagnostic}

@[simp] theorem index_detail (d : Diagnostic) : d.detail.index = d.index := by
  cases d <;> rfl

/-- Adds to `out` what the tree says from left to right; below a label it fills a record of its
own. -/
def fill (out : Detail) : Diagnostic → Detail
  | leaf _ d =>
    { out with
      encountered := if out.encountered = none then d.encountered else out.encountered
      unexpected := out.unexpected ++ d.unexpected
      expecting := out.expecting ++ d.expecting
      messages := out.messages ++ d.messages }
  | merged _ _ _ a b => fill (fill out a) b
  | relabelled _ _ _ label e =>
    let sub := fill {} e
    { out with
      encountered := if out.encountered = none then sub.encountered else out.encountered
      unexpected := out.unexpected ++ sub.unexpected
      expecting := out.expecting ++ [label]
      messages := out.messages ++ sub.messages }

theorem fill_eq_append (d : Diagnostic) (out : Detail) : fill out d = out.append d.detail := by
  have first (x y : Option String) : (if x = none then y else x) = x.or y := by
    cases x <;> rfl
  induction d generalizing out with
  | leaf id d => simp [fill, detail, Detail.append, first]
  | merged id index rank a b ihA ihB =>
    rw [fill, ihA, ihB]
    simp [detail, Detail.append, Option.or_assoc]
  | relabelled id index rank label e ih =>
    rw [fill, ih]
    simp [detail, Detail.append, Detail.relabel, first]

theorem fill_eq_detail (d : Diagnostic) : fill { index := d.index } d = d.detail := by
  rw [fill_eq_append, ← index_detail]
  rfl

/-- The rank that the node keeps is that of what it says, and tells whether it says anything but
what was encountered. -/
structure Genuine (d : Diagnostic) : Prop where
  rank : d.rank = d.detail.rank
  bare : d.isBare = decide (d.rank = 1)

theorem genuine_leaf (id : Nat) (d : Detail) : (leaf id d).Genuine := ⟨rfl, rfl⟩

theorem Genuine.rank_le (genuine : d.Genuine) : d.rank = 1 ∨ d.rank = 2 := by
  rw [genuine.rank]
  by_cases bare : d.detail.rank = 1
  · exact .inl bare
  · exact .inr (d.detail.rank_eq_two bare)

theorem Genuine.relabel (genuine : d.Genuine) (id : Nat) (l : String) :
    (d.relabel id l).Genuine := by
  cases d with
  | leaf i d => exact genuine_leaf id (d.relabel l)
  | merged | relabelled =>
    have two : ∀ r, r = 1 ∨ r = 2 → max r 2 = 2 := by omega
    have rank := two _ genuine.rank_le
    constructor
    · simp only [Diagnostic.relabel, Diagnostic.rank, detail] at rank ⊢
      rw [rank]
      exact (Detail.rank_relabel _ l).symm
    · simp only [Diagnostic.relabel, Diagnostic.rank, isBare] at rank ⊢
      simp [rank]

theorem detail_relabel (id : Nat) (l : String) (d : Diagnostic) :
    (d.relabel id l).detail = d.detail.relabel l := by
  cases d with
  | leaf => rfl
  | merged | relabelled => simp [relabel, detail, Detail.relabel, index]

theorem Genuine.merge (first : d.Genuine) (second : e.Genuine) (id : Nat) :
    (merge id d e).Genuine := by
  unfold Diagnostic.merge
  repeat' split
  case isFalse.isFalse.isFalse.isFalse level bare =>
    have equal : d.rank = e.rank := not_not.1 level
    have more : d.rank ≠ 1 := by simpa [first.bare, second.bare, ← equal] using bare
    constructor
    · have appended := Detail.rank_append d.detail e.detail (first.rank ▸ more)
      rw [← first.rank] at appended
      exact appended.symm
    · exact (decide_eq_false more).symm
  all_goals first
    | exact first
    | exact second

theorem detail_merge (first : d.Genuine) (second : e.Genuine) (apart : d.id ≠ e.id) (id : Nat) :
    (merge id d e).detail = d.detail.merge e.detail := by
  unfold Diagnostic.merge Detail.merge
  simp only [if_neg apart, index_detail, ← first.rank, ← second.rank]
  by_cases level : d.index = e.index
  · by_cases equal : d.rank = e.rank
    · by_cases bare : e.rank = 1
      · simp [level, equal, first.bare, second.bare, bare]
      · -- The tree keeps both; the index of the whole is that of the first.
        have whole : (merged id d.index d.rank d e).detail = d.detail.append e.detail := by
          simp [detail, Detail.append]
        simp [level, equal, first.bare, bare, ← whole]
    · simp only [ne_eq, level, equal, not_true_eq_false, not_false_eq_true, if_false, if_true]
      split <;> rfl
  · simp only [ne_eq, level, not_false_eq_true, if_true]
    split <;> rfl

section

variable {x y : Option Diagnostic} (first : ∀ d, x = some d → d.Genuine)
  (second : ∀ e, y = some e → e.Genuine) (id : Nat)

include first second

theorem genuine_merge? : ∀ d, merge? id x y = some d → d.Genuine := by
  intro d made
  rcases merge?_cases id made with only | only | ⟨d₁, d₂, left, right, rfl⟩
  · exact first d only
  · exact second d only
  · exact (first d₁ left).merge (second d₂ right) id

theorem detail_merge? (apart : ∀ d e, x = some d → y = some e → d.id ≠ e.id) :
    (merge? id x y).map detail = Detail.merge? (x.map detail) (y.map detail) := by
  cases x with
  | none => cases y <;> rfl
  | some d =>
    cases y with
    | none => rfl
    | some e =>
      exact congrArg some (detail_merge (first d rfl) (second e rfl) (apart d e rfl rfl) id)

end

end Diagnostic

/-- The calls that make a diagnostic, with the number of the node that each of them makes. -/
inductive Complaint where
  | nothing
  | expecting (id index : Nat) (label : String)
  | unexpected (id index : Nat) (label : String)
  | message (id index : Nat) (text : String)
  | encountered (id index : Nat) (what : String)
  | merge (id : Nat) (first second : Complaint)
  | merge? (id : Nat) (first second : Complaint)
  | relabel (id : Nat) (label : String) (inner : Complaint)
  deriving DecidableEq, Repr

namespace Complaint

def tree : Complaint → Option Diagnostic
  | nothing => none
  | expecting id index l => some (.expecting id index l)
  | unexpected id index l => some (.unexpected id index l)
  | message id index text => some (.message id index text)
  | encountered id index what => some (.encountered id index what)
  | merge id a b => a.tree.bind fun d => b.tree.map fun e => Diagnostic.merge id d e
  | merge? id a b => Diagnostic.merge? id a.tree b.tree
  | relabel id l a => a.tree.map (.relabel id l)

def record : Complaint → Option Detail
  | nothing => none
  | expecting _ index l => some { index, expecting := [l] }
  | unexpected _ index l => some { index, unexpected := [l] }
  | message _ index text => some { index, messages := [text] }
  | encountered _ index what => some { index, encountered := some what }
  | merge _ a b => a.record.bind fun d => b.record.map fun e => d.merge e
  | merge? _ a b => Detail.merge? a.record b.record
  | relabel _ l a => a.record.map fun d => { d with expecting := [l] }

/-- No node is merged with itself. -/
def Apart : Complaint → Prop
  | merge _ a b | merge? _ a b =>
    a.Apart ∧ b.Apart ∧ ∀ d e, a.tree = some d → b.tree = some e → d.id ≠ e.id
  | relabel _ _ a => a.Apart
  | nothing | expecting _ _ _ | unexpected _ _ _ | message _ _ _ | encountered _ _ _ => True

def numbers : Complaint → List Nat
  | nothing => []
  | expecting id _ _ | unexpected id _ _ | message id _ _ | encountered id _ _ => [id]
  | merge id a b | merge? id a b => id :: (a.numbers ++ b.numbers)
  | relabel id _ a => id :: a.numbers

variable {c : Complaint} {d : Diagnostic}

theorem id_mem_numbers (made : c.tree = some d) : d.id ∈ c.numbers := by
  have merged : ∀ {id : Nat} {a b : Complaint} {d e : Diagnostic}, d.id ∈ a.numbers →
      e.id ∈ b.numbers → (Diagnostic.merge id d e).id ∈ id :: (a.numbers ++ b.numbers) := by
    intro id a b d e first second
    rcases Diagnostic.merge_cases id d e with same | same | new
    · simp [same, first]
    · simp [same, second]
    · simp [new]
  induction c generalizing d with
  | nothing => cases made
  | expecting | unexpected | message | encountered =>
    cases made
    exact List.mem_singleton_self _
  | merge id a b ihA ihB =>
    simp only [tree, Option.bind_eq_some_iff, Option.map_eq_some_iff] at made
    obtain ⟨d, first, e, second, rfl⟩ := made
    exact merged (ihA first) (ihB second)
  | merge? id a b ihA ihB =>
    rcases Diagnostic.merge?_cases id made with only | only | ⟨d, e, first, second, rfl⟩
    · simp [numbers, ihA only]
    · simp [numbers, ihB only]
    · exact merged (ihA first) (ihB second)
  | relabel id l a ih =>
    obtain ⟨d, -, rfl⟩ := Option.map_eq_some_iff.1 made
    simp [numbers]

theorem apart_of_nodup (once : c.numbers.Nodup) : c.Apart := by
  induction c with
  | nothing | expecting | unexpected | message | encountered => trivial
  | merge id a b ihA ihB | merge? id a b ihA ihB =>
    obtain ⟨-, parts⟩ := List.nodup_cons.1 once
    obtain ⟨onceA, onceB, disjoint⟩ := List.nodup_append'.1 parts
    refine ⟨ihA onceA, ihB onceB, fun d e first second same => ?_⟩
    exact disjoint (id_mem_numbers first) (same ▸ id_mem_numbers second)
  | relabel id l a ih => exact ih (List.nodup_cons.1 once).2

theorem genuine_tree (made : c.tree = some d) : d.Genuine := by
  induction c generalizing d with
  | nothing => cases made
  | expecting | unexpected | message | encountered =>
    cases made
    exact Diagnostic.genuine_leaf _ _
  | merge id a b ihA ihB =>
    simp only [tree, Option.bind_eq_some_iff, Option.map_eq_some_iff] at made
    obtain ⟨d, first, e, second, rfl⟩ := made
    exact (ihA first).merge (ihB second) id
  | merge? id a b ihA ihB =>
    exact Diagnostic.genuine_merge? (fun _ => ihA) (fun _ => ihB) id d made
  | relabel id l a ih =>
    obtain ⟨d, inner, rfl⟩ := Option.map_eq_some_iff.1 made
    exact (ih inner).relabel id l

theorem detail_tree (apart : c.Apart) : c.tree.map Diagnostic.detail = c.record := by
  induction c with
  | nothing | expecting | unexpected | message | encountered => rfl
  | merge? id a b ihA ihB =>
    obtain ⟨apartA, apartB, different⟩ := apart
    simp only [tree, record, ← ihA apartA, ← ihB apartB]
    exact Diagnostic.detail_merge? (fun _ => genuine_tree) (fun _ => genuine_tree) id different
  | merge id a b ihA ihB =>
    obtain ⟨apartA, apartB, different⟩ := apart
    simp only [tree, record, ← ihA apartA, ← ihB apartB]
    cases first : a.tree with
    | none => cases b.tree <;> rfl
    | some d =>
      cases second : b.tree with
      | none => rfl
      | some e =>
        exact congrArg some (Diagnostic.detail_merge (genuine_tree first) (genuine_tree second)
          (different d e first second) id)
  | relabel id l a ih =>
    simp only [tree, record, ← ih apart, Option.map_map]
    exact congrFun (congrArg _ (funext fun d => Diagnostic.detail_relabel id l d)) _

/-- A diagnostic is flattened to what the record of the same calls says, as long as no node is
merged with itself. -/
theorem tree_refines_record (c : Complaint) (apart : c.Apart) :
    c.tree.map (fun d => (d.index, d.rank, d.detail)) =
        c.record.map (fun r => (r.index, r.rank, r)) ∧
      ∀ d, c.tree = some d → Diagnostic.fill { index := d.index } d = d.detail ∧ ∀ i l,
        (d.relabel i l).detail = { d.detail with expecting := [l] } ∧
        ∀ j m, ((d.relabel i l).relabel j m).detail = { d.detail with expecting := [m] } := by
  constructor
  · rw [← detail_tree apart, Option.map_map]
    refine Option.map_congr fun d made => ?_
    rw [Function.comp_apply, Diagnostic.index_detail, (genuine_tree made).rank]
  · intro d _
    refine ⟨d.fill_eq_detail, fun i l => ⟨Diagnostic.detail_relabel i l d, fun j m => ?_⟩⟩
    rw [Diagnostic.detail_relabel, Diagnostic.detail_relabel]
    rfl

theorem term_refines_record :
    let near : Complaint := .relabel 1 "digit" (.encountered 0 3 "x")
    let both : Complaint := .merge 4 (.message 2 5 "boom") (.unexpected 3 5 ";")
    let term : Complaint := .relabel 6 "term" (.relabel 5 "sign" both)
    let c : Complaint := .merge? 9 near (.merge 8 (.encountered 7 5 "<EOF>") term)
    c.Apart ∧
      c.tree.map (fun d => (d.index, d.rank, d.detail)) =
        c.record.map (fun r => (r.index, r.rank, r)) ∧
      c.record = some ⟨5, none, [";"], ["term"], ["boom"]⟩ := by
  intro near both term c
  have apart : c.Apart := apart_of_nodup (by decide)
  exact ⟨apart, (tree_refines_record c apart).1, by decide⟩

end Complaint

end Descent
