import Descent.Operator.Table

/-!
An operator stands in the stratum of its precedence and its kind; what stands below it in a tree is
further inside, or, where operators of the stratum may be chained, in the same stratum.
-/

set_option autoImplicit false

namespace Descent

namespace OperatorKind

/-- At one precedence the first kind is stacked inside the second. -/
def Tighter (k l : OperatorKind) : Prop :=
  [k, l].Sublist [before, after, leftAssoc, rightAssoc, nonAssoc]

instance (k l : OperatorKind) : Decidable (k.Tighter l) :=
  inferInstanceAs (Decidable ([k, l].Sublist [before, after, leftAssoc, rightAssoc, nonAssoc]))

theorem tighter_iff {k l : OperatorKind} : k.Tighter l ↔ k.rank < l.rank := by
  cases k <;> cases l <;> decide

theorem rank_injective {k l : OperatorKind} (same : k.rank = l.rank) : k = l := by
  cases k <;> cases l <;> simp_all [rank]

end OperatorKind

structure Stratum where
  precedence : Int
  kind : OperatorKind
  deriving DecidableEq, Repr

namespace Stratum

variable {σ τ υ : Stratum}

def Inside (σ τ : Stratum) : Prop :=
  τ.precedence < σ.precedence ∨ σ.precedence = τ.precedence ∧ σ.kind.Tighter τ.kind

def Within (σ τ : Stratum) : Prop := σ = τ ∨ σ.Inside τ

instance : Decidable (σ.Inside τ) :=
  inferInstanceAs (Decidable (τ.precedence < σ.precedence ∨
    σ.precedence = τ.precedence ∧ σ.kind.Tighter τ.kind))

instance : Decidable (σ.Within τ) := inferInstanceAs (Decidable (σ = τ ∨ σ.Inside τ))

theorem inside_iff : σ.Inside τ ↔ τ.precedence < σ.precedence ∨
    σ.precedence = τ.precedence ∧ σ.kind.rank < τ.kind.rank := by
  rw [Inside, OperatorKind.tighter_iff]

theorem Inside.irrefl : ¬ σ.Inside σ := by
  rw [inside_iff]
  omega

theorem Inside.trans (first : σ.Inside τ) (second : τ.Inside υ) : σ.Inside υ := by
  rw [inside_iff] at *
  omega

theorem Within.trans_inside (first : σ.Within τ) (second : τ.Inside υ) : σ.Inside υ := by
  obtain rfl | inside := first
  · exact second
  · exact inside.trans second

end Stratum

structure Sign where
  stratum : Stratum
  token : Token
  deriving DecidableEq, Repr

def Sign.kind (σ : Sign) : OperatorKind := σ.stratum.kind

inductive Tree where
  | leaf (tok : Token)
  | unary (σ : Sign) (x : Tree)
  | binary (σ : Sign) (l r : Tree)
  deriving DecidableEq, Repr

namespace Tree

def node (σ : Sign) : (k : OperatorKind) → k.ty.Value Tree
  | .before | .after => unary σ
  | .leftAssoc | .rightAssoc | .nonAssoc => binary σ

def print : Tree → List Token
  | leaf tok => [tok]
  | unary σ x => if σ.kind = .before then σ.token :: x.print else x.print ++ [σ.token]
  | binary σ l r => l.print ++ σ.token :: r.print

def Root (place : Stratum → Prop) : Tree → Prop
  | leaf _ => True
  | unary σ _ => place σ.stratum
  | binary σ _ _ => place σ.stratum

def AtMost (τ : Stratum) (x : Tree) : Prop := x.Root (·.Within τ)

def Below (τ : Stratum) (x : Tree) : Prop := x.Root (·.Inside τ)

/-- What an operator of the stratum may have for its one operand. -/
def Operand (τ : Stratum) (x : Tree) : Prop :=
  (τ.kind = .before ∨ τ.kind = .after) ∧ x.AtMost τ

def Operands (τ : Stratum) (l r : Tree) : Prop :=
  match τ.kind with
  | .before | .after => False
  | .leftAssoc => l.AtMost τ ∧ r.Below τ
  | .rightAssoc => l.Below τ ∧ r.AtMost τ
  | .nonAssoc => l.Below τ ∧ r.Below τ

/-- A tree of the grammar with these operators over the terms that are accepted. -/
def Stratified (accepts : Token → Bool) (signs : List Sign) : Tree → Prop
  | leaf tok => accepts tok = true
  | unary σ x => σ ∈ signs ∧ Operand σ.stratum x ∧ x.Stratified accepts signs
  | binary σ l r =>
    σ ∈ signs ∧ Operands σ.stratum l r ∧
      l.Stratified accepts signs ∧ r.Stratified accepts signs

instance {place : Stratum → Prop} [DecidablePred place] : DecidablePred (Root place)
  | leaf _ => inferInstanceAs (Decidable True)
  | unary σ _ => inferInstanceAs (Decidable (place σ.stratum))
  | binary σ _ _ => inferInstanceAs (Decidable (place σ.stratum))

instance (τ : Stratum) (x : Tree) : Decidable (x.AtMost τ) :=
  inferInstanceAs (Decidable (x.Root (·.Within τ)))

instance (τ : Stratum) (x : Tree) : Decidable (x.Below τ) :=
  inferInstanceAs (Decidable (x.Root (·.Inside τ)))

instance (τ : Stratum) (x : Tree) : Decidable (Operand τ x) :=
  inferInstanceAs (Decidable ((τ.kind = .before ∨ τ.kind = .after) ∧ x.AtMost τ))

instance (τ : Stratum) (l r : Tree) : Decidable (Operands τ l r) :=
  match kind : τ.kind with
  | .before | .after => .isFalse (by simp [Operands, kind])
  | .leftAssoc => decidable_of_iff (l.AtMost τ ∧ r.Below τ) (by simp [Operands, kind])
  | .rightAssoc => decidable_of_iff (l.Below τ ∧ r.AtMost τ) (by simp [Operands, kind])
  | .nonAssoc => decidable_of_iff (l.Below τ ∧ r.Below τ) (by simp [Operands, kind])

instance Stratified.decidable (accepts : Token → Bool) (signs : List Sign) :
    DecidablePred (Stratified accepts signs)
  | leaf tok => inferInstanceAs (Decidable (accepts tok = true))
  | unary σ x =>
    have := Stratified.decidable accepts signs x
    inferInstanceAs (Decidable (σ ∈ signs ∧ Operand σ.stratum x ∧ x.Stratified accepts signs))
  | binary σ l r =>
    have := Stratified.decidable accepts signs l
    have := Stratified.decidable accepts signs r
    inferInstanceAs (Decidable (σ ∈ signs ∧ Operands σ.stratum l r ∧
      l.Stratified accepts signs ∧ r.Stratified accepts signs))

theorem Root.mono {place place' : Stratum → Prop} (weaker : ∀ τ, place τ → place' τ) {x : Tree}
    (root : x.Root place) : x.Root place' := by
  cases x with
  | leaf tok => trivial
  | unary σ x => exact weaker _ root
  | binary σ l r => exact weaker _ root

theorem Operands.atMost {τ : Stratum} {l r : Tree} (operands : Operands τ l r) :
    l.AtMost τ ∧ r.AtMost τ := by
  have weaker : ∀ σ : Stratum, σ.Inside τ → σ.Within τ := fun _ => .inr
  unfold Operands at operands
  split at operands
  case h_1 | h_2 => cases operands
  case h_3 => exact ⟨operands.1, operands.2.mono weaker⟩
  case h_4 => exact ⟨operands.1.mono weaker, operands.2⟩
  case h_5 => exact ⟨operands.1.mono weaker, operands.2.mono weaker⟩

namespace Stratified

variable {accepts : Token → Bool} {signs signs' : List Sign} {x : Tree}

theorem root {place : Stratum → Prop} (every : ∀ σ ∈ signs, place σ.stratum)
    (stratified : x.Stratified accepts signs) : x.Root place := by
  cases x with
  | leaf tok => trivial
  | unary σ x => exact every σ stratified.1
  | binary σ l r => exact every σ stratified.1

theorem mono (more : ∀ σ ∈ signs, σ ∈ signs') (stratified : x.Stratified accepts signs) :
    x.Stratified accepts signs' := by
  induction x with
  | leaf tok => exact stratified
  | unary σ x ih =>
    obtain ⟨member, operand, below⟩ := stratified
    exact ⟨more σ member, operand, ih below⟩
  | binary σ l r left right =>
    obtain ⟨member, operands, below, below'⟩ := stratified
    exact ⟨more σ member, operands, left below, right below'⟩

theorem restrict {ε : Stratum} (inner : ∀ σ ∈ signs, σ.stratum.Inside ε → σ ∈ signs')
    (stratified : x.Stratified accepts signs) (below : x.Below ε) :
    x.Stratified accepts signs' := by
  -- What stands below the root is inside its stratum or in it, and so inside `ε` with it.
  induction x with
  | leaf tok => exact stratified
  | unary σ x ih =>
    obtain ⟨member, operand, rest⟩ := stratified
    exact ⟨inner σ member below, operand,
      ih rest (operand.2.mono fun _ within => within.trans_inside below)⟩
  | binary σ l r left right =>
    obtain ⟨member, operands, rest, rest'⟩ := stratified
    obtain ⟨within, within'⟩ := operands.atMost
    exact ⟨inner σ member below, operands,
      left rest (within.mono fun _ within => within.trans_inside below),
      right rest' (within'.mono fun _ within => within.trans_inside below)⟩

theorem first (stratified : x.Stratified accepts signs) :
    ∃ tok rest, x.print = tok :: rest ∧
      (accepts tok = true ∨ ∃ σ ∈ signs, σ.kind = .before ∧ σ.token = tok) := by
  induction x with
  | leaf tok => exact ⟨tok, [], rfl, .inl stratified⟩
  | unary σ x ih =>
    obtain ⟨member, -, rest⟩ := stratified
    by_cases before : σ.kind = .before
    · exact ⟨σ.token, x.print, by simp [print, before], .inr ⟨σ, member, before, rfl⟩⟩
    · obtain ⟨tok, ts, tokens, origin⟩ := ih rest
      exact ⟨tok, ts ++ [σ.token], by simp [print, before, tokens], origin⟩
  | binary σ l r left right =>
    obtain ⟨-, -, rest, -⟩ := stratified
    obtain ⟨tok, ts, tokens, origin⟩ := left rest
    exact ⟨tok, ts ++ σ.token :: r.print, by simp [print, tokens], origin⟩

end Stratified

end Tree

structure Stratum.Wraps (ε : Stratum) (inner level : List Sign) : Prop where
  inside : ∀ σ ∈ inner, σ.stratum.Inside ε
  here : ∀ σ ∈ level, σ.stratum = ε

namespace Stratum.Wraps

open Descent.Tree

variable {ε : Stratum} {inner level : List Sign} {accepts : Token → Bool} {z : Tree}

theorem kind_eq (wraps : ε.Wraps inner level) {σ : Sign} (member : σ ∈ level) :
    σ.kind = ε.kind :=
  congrArg Stratum.kind (wraps.here σ member)

theorem atMost (wraps : ε.Wraps inner level) (stratified : z.Stratified accepts (inner ++ level)) :
    z.AtMost ε := by
  refine stratified.root fun σ member => ?_
  obtain inside | here := List.mem_append.1 member
  · exact .inr (wraps.inside σ inside)
  · exact .inl (wraps.here σ here)

theorem below_iff (wraps : ε.Wraps inner level) :
    z.Stratified accepts inner ↔ z.Stratified accepts (inner ++ level) ∧ z.Below ε := by
  constructor
  · intro stratified
    exact ⟨stratified.mono fun _ => List.mem_append_left _, stratified.root wraps.inside⟩
  · rintro ⟨stratified, below⟩
    refine stratified.restrict (fun σ member inside => ?_) below
    obtain member | member := List.mem_append.1 member
    · exact member
    · rw [wraps.here σ member] at inside
      exact (Inside.irrefl inside).elim

theorem unary_cases (wraps : ε.Wraps inner level) {σ : Sign} {x : Tree} :
    (unary σ x).Stratified accepts (inner ++ level) ↔
      (unary σ x).Stratified accepts inner ∨
        σ ∈ level ∧ Operand ε x ∧ x.Stratified accepts (inner ++ level) := by
  constructor
  · intro stratified
    obtain inside | here := List.mem_append.1 stratified.1
    · exact .inl (wraps.below_iff.2 ⟨stratified, wraps.inside σ inside⟩)
    · obtain ⟨-, operand, rest⟩ := stratified
      exact .inr ⟨here, wraps.here σ here ▸ operand, rest⟩
  · rintro (stratified | ⟨here, operand, rest⟩)
    · exact (wraps.below_iff.1 stratified).1
    · exact ⟨List.mem_append_right _ here, (wraps.here σ here).symm ▸ operand, rest⟩

theorem binary_cases (wraps : ε.Wraps inner level) {σ : Sign} {l r : Tree} :
    (binary σ l r).Stratified accepts (inner ++ level) ↔
      (binary σ l r).Stratified accepts inner ∨
        σ ∈ level ∧ Operands ε l r ∧ l.Stratified accepts (inner ++ level) ∧
          r.Stratified accepts (inner ++ level) := by
  constructor
  · intro stratified
    obtain inside | here := List.mem_append.1 stratified.1
    · exact .inl (wraps.below_iff.2 ⟨stratified, wraps.inside σ inside⟩)
    · obtain ⟨-, operands, rest⟩ := stratified
      exact .inr ⟨here, wraps.here σ here ▸ operands, rest⟩
  · rintro (stratified | ⟨here, operands, rest⟩)
    · exact (wraps.below_iff.1 stratified).1
    · exact ⟨List.mem_append_right _ here, (wraps.here σ here).symm ▸ operands, rest⟩

theorem unary_iff (wraps : ε.Wraps inner level) (kind : ε.kind = .before ∨ ε.kind = .after) :
    z.Stratified accepts (inner ++ level) ↔
      ∃ (σs : List Sign) (x : Tree), (∀ σ ∈ σs, σ ∈ level) ∧ x.Stratified accepts inner ∧
        z = σs.foldr unary x := by
  have operand_iff : ∀ x, Operand ε x ↔ x.AtMost ε := by
    obtain kind | kind := kind <;> simp [Operand, kind]
  have no_operands : ∀ l r, ¬ Operands ε l r := by
    obtain kind | kind := kind <;> simp [Operands, kind]
  constructor
  · intro stratified
    -- The chain is taken apart from the root, whose operator applies last.
    induction z with
    | leaf tok => exact ⟨[], .leaf tok, by simp, stratified, rfl⟩
    | unary σ x ih =>
      obtain whole | ⟨here, -, rest⟩ := wraps.unary_cases.1 stratified
      · exact ⟨[], _, by simp, whole, rfl⟩
      · obtain ⟨σs, y, members, operand, rfl⟩ := ih rest
        exact ⟨σ :: σs, y, List.forall_mem_cons.2 ⟨here, members⟩, operand, rfl⟩
    | binary σ l r =>
      obtain whole | ⟨-, operands, -⟩ := wraps.binary_cases.1 stratified
      · exact ⟨[], _, by simp, whole, rfl⟩
      · exact (no_operands l r operands).elim
  · rintro ⟨σs, x, members, operand, rfl⟩
    induction σs with
    | nil => exact (wraps.below_iff.1 operand).1
    | cons σ σs ih =>
      obtain ⟨here, others⟩ := List.forall_mem_cons.1 members
      have rest := ih others
      exact wraps.unary_cases.2 (.inr ⟨here, (operand_iff _).2 (wraps.atMost rest), rest⟩)

theorem no_operand (kind : ε.kind = .leftAssoc ∨ ε.kind = .rightAssoc ∨ ε.kind = .nonAssoc)
    (x : Tree) : ¬ Operand ε x := by
  obtain kind | kind | kind := kind <;> simp [Operand, kind]

theorem leftAssoc_iff (wraps : ε.Wraps inner level) (kind : ε.kind = .leftAssoc) :
    z.Stratified accepts (inner ++ level) ↔
      ∃ (x : Tree) (ps : List (Sign × Tree)), x.Stratified accepts inner ∧
        (∀ p ∈ ps, p.1 ∈ level ∧ p.2.Stratified accepts inner) ∧
        z = ps.foldl (fun acc p => binary p.1 acc p.2) x := by
  have operands_iff : ∀ l r, Operands ε l r ↔ l.AtMost ε ∧ r.Below ε := by
    simp [Operands, kind]
  constructor
  · intro stratified
    induction z with
    | leaf tok => exact ⟨.leaf tok, [], stratified, by simp, rfl⟩
    | unary σ x =>
      obtain whole | ⟨-, operand, -⟩ := wraps.unary_cases.1 stratified
      · exact ⟨_, [], whole, by simp, rfl⟩
      · exact (no_operand (.inl kind) x operand).elim
    | binary σ l r left =>
      obtain whole | ⟨here, operands, rest, rest'⟩ := wraps.binary_cases.1 stratified
      · exact ⟨_, [], whole, by simp, rfl⟩
      · obtain ⟨x, ps, first, others, rfl⟩ := left rest
        have last := wraps.below_iff.2 ⟨rest', ((operands_iff _ _).1 operands).2⟩
        refine ⟨x, ps ++ [(σ, r)], first, ?_, by simp⟩
        simp only [List.forall_mem_append, List.forall_mem_singleton]
        exact ⟨others, here, last⟩
  · rintro ⟨x, ps, first, others, rfl⟩
    have start := (wraps.below_iff.1 first).1
    clear first
    induction ps generalizing x with
    | nil => exact start
    | cons p ps ih =>
      obtain ⟨⟨here, operand⟩, others⟩ := List.forall_mem_cons.1 others
      obtain ⟨more, below⟩ := wraps.below_iff.1 operand
      have operands := (operands_iff x p.2).2 ⟨wraps.atMost start, below⟩
      exact ih _ others (wraps.binary_cases.2 (.inr ⟨here, operands, start, more⟩))

theorem rightAssoc_iff (wraps : ε.Wraps inner level) (kind : ε.kind = .rightAssoc) :
    z.Stratified accepts (inner ++ level) ↔
      ∃ (x : Tree) (ps : List (Sign × Tree)), x.Stratified accepts inner ∧
        (∀ p ∈ ps, p.1 ∈ level ∧ p.2.Stratified accepts inner) ∧
        z = Parser.foldRight x (ps.map fun p => (binary p.1, p.2)) := by
  have operands_iff : ∀ l r, Operands ε l r ↔ l.Below ε ∧ r.AtMost ε := by
    simp [Operands, kind]
  constructor
  · intro stratified
    induction z with
    | leaf tok => exact ⟨.leaf tok, [], stratified, by simp, rfl⟩
    | unary σ x =>
      obtain whole | ⟨-, operand, -⟩ := wraps.unary_cases.1 stratified
      · exact ⟨_, [], whole, by simp, rfl⟩
      · exact (no_operand (.inr (.inl kind)) x operand).elim
    | binary σ l r _ right =>
      obtain whole | ⟨here, operands, rest, rest'⟩ := wraps.binary_cases.1 stratified
      · exact ⟨_, [], whole, by simp, rfl⟩
      · obtain ⟨y, ps, next, others, rfl⟩ := right rest'
        have first := wraps.below_iff.2 ⟨rest, ((operands_iff _ _).1 operands).1⟩
        exact ⟨l, (σ, y) :: ps, first, List.forall_mem_cons.2 ⟨⟨here, next⟩, others⟩, rfl⟩
  · rintro ⟨x, ps, first, others, rfl⟩
    induction ps generalizing x with
    | nil => exact (wraps.below_iff.1 first).1
    | cons p ps ih =>
      obtain ⟨⟨here, operand⟩, others⟩ := List.forall_mem_cons.1 others
      obtain ⟨more, below⟩ := wraps.below_iff.1 first
      have rest := ih _ operand others
      have operands := (operands_iff x _).2 ⟨below, wraps.atMost rest⟩
      exact wraps.binary_cases.2 (.inr ⟨here, operands, more, rest⟩)

theorem nonAssoc_iff (wraps : ε.Wraps inner level) (kind : ε.kind = .nonAssoc) :
    z.Stratified accepts (inner ++ level) ↔
      ∃ x : Tree, x.Stratified accepts inner ∧
        (z = x ∨ ∃ σ ∈ level, ∃ y : Tree, y.Stratified accepts inner ∧ z = binary σ x y) := by
  have operands_iff : ∀ l r, Operands ε l r ↔ l.Below ε ∧ r.Below ε := by
    simp [Operands, kind]
  constructor
  · intro stratified
    cases z with
    | leaf tok => exact ⟨.leaf tok, stratified, .inl rfl⟩
    | unary σ x =>
      obtain whole | ⟨-, operand, -⟩ := wraps.unary_cases.1 stratified
      · exact ⟨_, whole, .inl rfl⟩
      · exact (no_operand (.inr (.inr kind)) x operand).elim
    | binary σ l r =>
      obtain whole | ⟨here, operands, rest, rest'⟩ := wraps.binary_cases.1 stratified
      · exact ⟨_, whole, .inl rfl⟩
      · obtain ⟨below, below'⟩ := (operands_iff l r).1 operands
        have first := wraps.below_iff.2 ⟨rest, below⟩
        have second := wraps.below_iff.2 ⟨rest', below'⟩
        exact ⟨l, first, .inr ⟨σ, here, r, second, rfl⟩⟩
  · rintro ⟨x, first, rfl | ⟨σ, here, y, second, rfl⟩⟩
    · exact (wraps.below_iff.1 first).1
    · obtain ⟨more, below⟩ := wraps.below_iff.1 first
      obtain ⟨more', below'⟩ := wraps.below_iff.1 second
      have operands := (operands_iff x y).2 ⟨below, below'⟩
      exact wraps.binary_cases.2 (.inr ⟨here, operands, more, more'⟩)

end Stratum.Wraps

namespace Tree

theorem print_before {σs : List Sign} (kinds : ∀ σ ∈ σs, σ.kind = .before) (x : Tree) :
    (σs.foldr unary x).print = σs.map Sign.token ++ x.print := by
  induction σs with
  | nil => rfl
  | cons σ σs ih =>
    obtain ⟨kind, others⟩ := List.forall_mem_cons.1 kinds
    simp [print, kind, ih others]

theorem print_after {σs : List Sign} (kinds : ∀ σ ∈ σs, σ.kind = .after) (x : Tree) :
    (σs.foldl (fun acc σ => unary σ acc) x).print = x.print ++ σs.map Sign.token := by
  induction σs generalizing x with
  | nil => simp
  | cons σ σs ih =>
    obtain ⟨kind, others⟩ := List.forall_mem_cons.1 kinds
    simp [print, kind, ih others]

theorem print_leftAssoc (ps : List (Sign × Tree)) (x : Tree) :
    (ps.foldl (fun acc p => binary p.1 acc p.2) x).print =
      x.print ++ ps.flatMap fun p => p.1.token :: p.2.print := by
  induction ps generalizing x with
  | nil => simp
  | cons p ps ih => simp [print, ih]

theorem print_rightAssoc (ps : List (Sign × Tree)) (x : Tree) :
    (Parser.foldRight x (ps.map fun p => (binary p.1, p.2))).print =
      x.print ++ ps.flatMap fun p => p.1.token :: p.2.print := by
  induction ps generalizing x with
  | nil => simp [Parser.foldRight]
  | cons p ps ih => simp [Parser.foldRight, print, ih]

end Tree

end Descent
