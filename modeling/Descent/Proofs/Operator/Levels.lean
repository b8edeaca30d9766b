import Descent.Proofs.Operator.Tree

set_option autoImplicit false

namespace Descent

variable {β : Type}

namespace Operator

def stratum (o : Operator β) : Stratum := ⟨o.precedence, o.kind⟩

theorem le_iff {p o : Operator β} : p.le o = true ↔ p.stratum.Within o.stratum := by
  rw [Stratum.Within, Stratum.inside_iff]
  unfold le stratum
  by_cases same : p.precedence = o.precedence
  · simp only [same, if_true, decide_eq_true_eq, Stratum.mk.injEq, true_and, Int.lt_irrefl,
      false_or]
    constructor
    · intro le
      obtain equal | less := Nat.eq_or_lt_of_le le
      · exact .inl (OperatorKind.rank_injective equal)
      · exact .inr less
    · rintro (equal | less)
      · exact Nat.le_of_eq (congrArg OperatorKind.rank equal)
      · exact Nat.le_of_lt less
  · simp [same]

theorem le_trans (o p q : Operator β) (first : o.le p = true) (second : p.le q = true) :
    o.le q = true := by
  rw [le_iff] at *
  obtain same | inside := second
  · exact same ▸ first
  · exact .inr (first.trans_inside inside)

theorem le_total (o p : Operator β) : (o.le p || p.le o) = true := by
  unfold le
  by_cases same : o.precedence = p.precedence
  · simp only [same, if_true]
    simpa using Nat.le_total o.kind.rank p.kind.rank
  · have same' : ¬ p.precedence = o.precedence := fun h => same h.symm
    simp only [same, same', if_false, Bool.or_eq_true, decide_eq_true_eq]
    omega

end Operator

namespace Level

def stratum (l : Level β) : Stratum := ⟨l.precedence, l.kind⟩

def operators (l : Level β) : List (Operator β) := l.parsers.map fun p => ⟨l.kind, l.precedence, p⟩

theorem stratum_of_mem {l : Level β} {o : Operator β} (member : o ∈ l.operators) :
    o.stratum = l.stratum := by
  obtain ⟨p, -, rfl⟩ := List.mem_map.1 member
  rfl

end Level

namespace OperatorTable

theorem push_cons (o : Operator β) (l : Level β) (ls : List (Level β)) :
    (∃ p, o = ⟨l.kind, l.precedence, p⟩ ∧
        push o (l :: ls) = ⟨l.kind, l.precedence, p :: l.parsers⟩ :: ls) ∨
      o.stratum ≠ l.stratum ∧
        push o (l :: ls) = ⟨o.kind, o.precedence, [o.parser]⟩ :: l :: ls := by
  obtain ⟨k, m, p⟩ := o
  obtain ⟨k', m', ps⟩ := l
  by_cases kind : k = k'
  · cases kind
    by_cases precedence : m = m'
    · cases precedence
      exact .inl ⟨p, rfl, by simp [push]⟩
    · refine .inr ⟨?_, by simp [push, precedence]⟩
      simp [Operator.stratum, Level.stratum, precedence]
  · refine .inr ⟨?_, by simp [push, kind]⟩
    simp [Operator.stratum, Level.stratum, kind]

theorem operators_push (o : Operator β) (ls : List (Level β)) :
    (push o ls).flatMap Level.operators = o :: ls.flatMap Level.operators := by
  cases ls with
  | nil => rfl
  | cons l ls =>
    obtain ⟨p, rfl, pushed⟩ | ⟨-, pushed⟩ := push_cons o l ls
    · rw [pushed]
      rfl
    · rw [pushed]
      rfl

theorem flatMap_levels (t : OperatorTable β) :
    t.levels.flatMap Level.operators = t.operators.mergeSort Operator.le := by
  unfold levels
  induction t.operators.mergeSort Operator.le with
  | nil => rfl
  | cons o os ih => rw [List.foldr_cons, operators_push, ih]

theorem mem_levels {t : OperatorTable β} {o : Operator β} :
    o ∈ t.operators ↔ ∃ l ∈ t.levels, o ∈ l.operators := by
  rw [← List.mem_flatMap, flatMap_levels, List.mem_mergeSort]

theorem pairwise_push {o : Operator β} {ls : List (Level β)}
    (sorted : ls.Pairwise fun l m => l.stratum.Inside m.stratum)
    (first : ∀ l ∈ ls, o.stratum.Within l.stratum) :
    (push o ls).Pairwise (fun l m => l.stratum.Inside m.stratum) ∧
      ∀ l ∈ push o ls, l.stratum = o.stratum ∨ ∃ m ∈ ls, l.stratum = m.stratum := by
  cases ls with
  | nil => simp [push, Level.stratum, Operator.stratum]
  | cons l ls =>
    obtain ⟨before, sorted'⟩ := List.pairwise_cons.1 sorted
    obtain ⟨p, rfl, pushed⟩ | ⟨other, pushed⟩ := push_cons o l ls
    · rw [pushed]
      refine ⟨List.pairwise_cons.2 ⟨before, sorted'⟩, List.forall_mem_cons.2 ⟨.inl rfl, ?_⟩⟩
      exact fun m member => .inr ⟨m, List.mem_cons_of_mem _ member, rfl⟩
    · have inside : o.stratum.Inside l.stratum :=
        (first l List.mem_cons_self).resolve_left other
      have all : ∀ m ∈ l :: ls, o.stratum.Inside m.stratum :=
        List.forall_mem_cons.2 ⟨inside, fun m member => inside.trans (before m member)⟩
      rw [pushed]
      refine ⟨List.pairwise_cons.2 ⟨all, sorted⟩, List.forall_mem_cons.2 ⟨.inl rfl, ?_⟩⟩
      exact fun m member => .inr ⟨m, member, rfl⟩

theorem levels_pairwise (t : OperatorTable β) :
    t.levels.Pairwise fun l m => l.stratum.Inside m.stratum := by
  have grouped : ∀ os : List (Operator β), os.Pairwise (fun o p => o.le p = true) →
      (os.foldr push []).Pairwise (fun l m => l.stratum.Inside m.stratum) ∧
        ∀ l ∈ os.foldr push [], ∃ o ∈ os, l.stratum = o.stratum := by
    intro os sorted
    induction os with
    | nil => simp
    | cons o os ih =>
      obtain ⟨least, rest⟩ := List.pairwise_cons.1 sorted
      obtain ⟨pairwise, origin⟩ := ih rest
      -- The operator comes before all others, and each level has the stratum of one of them.
      have first : ∀ l ∈ os.foldr push [], o.stratum.Within l.stratum := by
        intro l member
        obtain ⟨p, below, same⟩ := origin l member
        rw [same]
        exact Operator.le_iff.1 (least p below)
      obtain ⟨pairwise', origin'⟩ := pairwise_push pairwise first
      refine ⟨pairwise', fun l member => ?_⟩
      obtain same | ⟨m, below, same⟩ := origin' l member
      · exact ⟨o, List.mem_cons_self, same⟩
      · obtain ⟨p, further, same'⟩ := origin m below
        exact ⟨p, List.mem_cons_of_mem _ further, same.trans same'⟩
  exact (grouped _ (List.pairwise_mergeSort Operator.le_trans Operator.le_total _)).1

theorem parsers_ne_nil (t : OperatorTable β) : ∀ l ∈ t.levels, l.parsers ≠ [] := by
  have grouped : ∀ os : List (Operator β), ∀ l ∈ os.foldr push [], l.parsers ≠ [] := by
    intro os
    induction os with
    | nil => simp
    | cons o os ih =>
      rw [List.foldr_cons]
      cases levels : os.foldr push [] with
      | nil => simp [push]
      | cons l ls =>
        rw [levels] at ih
        -- An operator joins the first level, or begins one of its own.
        obtain ⟨p, -, pushed⟩ | ⟨-, pushed⟩ := push_cons o l ls
        · rw [pushed]
          exact List.forall_mem_cons.2 ⟨List.cons_ne_nil _ _, (List.forall_mem_cons.1 ih).2⟩
        · rw [pushed]
          exact List.forall_mem_cons.2 ⟨List.cons_ne_nil _ _, ih⟩
  exact grouped _

theorem expression_induction (operand : Parser β .base → Prop)
    (operator : ∀ {k : OperatorKind}, Parser β k.ty → Prop) {t : OperatorTable β}
    {term : Parser β .base} (base : operand term) (each : ∀ o ∈ t.operators, operator o.parser)
    (wrap : ∀ (l : Level β) (p : Parser β .base), l.parsers ≠ [] →
      (∀ q ∈ l.parsers, operator q) → operand p → operand (l.wrap p)) :
    operand (t.expression term) := by
  have levels : ∀ l ∈ t.levels, l.parsers ≠ [] ∧ ∀ q ∈ l.parsers, operator q := by
    intro l level
    refine ⟨t.parsers_ne_nil l level, fun q member => ?_⟩
    have here : (⟨l.kind, l.precedence, q⟩ : Operator β) ∈ l.operators :=
      List.mem_map.2 ⟨q, member, rfl⟩
    exact each _ (mem_levels.2 ⟨l, level, here⟩)
  unfold expression
  generalize t.levels = ls at levels
  induction ls generalizing term with
  | nil => exact base
  | cons l ls ih =>
    obtain ⟨⟨some, ops⟩, later⟩ := List.forall_mem_cons.1 levels
    exact ih (wrap l term some ops base) later

end OperatorTable

end Descent
