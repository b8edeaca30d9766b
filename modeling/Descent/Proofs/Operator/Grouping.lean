import Mathlib.Data.List.Sort
import Descent.Proofs.Operator.Levels

set_option autoImplicit false

namespace Descent

variable {β : Type}

def OperatorTable.among (t : OperatorTable β) (σ : Stratum) : List (Operator β) :=
  t.operators.filter (·.stratum = σ)

theorem Operator.filter_mergeSort (os : List (Operator β)) (σ : Stratum) :
    (os.mergeSort Operator.le).filter (·.stratum = σ) = os.filter (·.stratum = σ) := by
  have alike : (os.filter (·.stratum = σ)).Pairwise fun o p => o.le p = true := by
    refine List.pairwise_of_forall_mem_list fun o here p there => le_iff.2 (.inl ?_)
    simp only [List.mem_filter, decide_eq_true_eq] at here there
    exact here.2.trans there.2.symm
  have sublist := (List.sublist_mergeSort le_trans le_total alike List.filter_sublist).filter
    (·.stratum = σ)
  simp only [List.filter_filter, Bool.and_self] at sublist
  have length := ((List.mergeSort_perm os Operator.le).filter (·.stratum = σ)).length_eq
  exact (sublist.eq_of_length length.symm).symm

theorem OperatorTable.among_eq (t : OperatorTable β) (σ : Stratum) :
    t.among σ = (t.levels.flatMap Level.operators).filter (·.stratum = σ) := by
  rw [flatMap_levels, Operator.filter_mergeSort, among]

namespace Level

theorem ext_of_operators {l m : Level β} (strata : l.stratum = m.stratum)
    (operators : l.operators = m.operators) : l = m := by
  obtain ⟨kind, precedence, parsers⟩ := l
  obtain ⟨kind', precedence', parsers'⟩ := m
  cases strata
  have injective : Function.Injective fun p : Parser β kind.ty =>
      (⟨kind, precedence, p⟩ : Operator β) := fun p q same => by cases same; rfl
  exact congrArg (Level.mk kind precedence) (List.map_injective_iff.2 injective operators)

theorem filter_flatMap {ls : List (Level β)} (apart : ls.Pairwise fun l m => l.stratum ≠ m.stratum)
    {l : Level β} (member : l ∈ ls) :
    (ls.flatMap Level.operators).filter (·.stratum = l.stratum) = l.operators := by
  have own : l.operators.filter (·.stratum = l.stratum) = l.operators :=
    List.filter_eq_self.2 fun o here => by simp [stratum_of_mem here]
  have foreign : ∀ m : Level β, m.stratum ≠ l.stratum →
      m.operators.filter (·.stratum = l.stratum) = [] :=
    fun m other => List.filter_eq_nil_iff.2 fun o here => by simp [stratum_of_mem here, other]
  induction ls with
  | nil => cases member
  | cons m ls ih =>
    obtain ⟨first, rest⟩ := List.pairwise_cons.1 apart
    rw [List.flatMap_cons, List.filter_append]
    obtain rfl | later := List.mem_cons.1 member
    · have none : (ls.flatMap Level.operators).filter (·.stratum = l.stratum) = [] := by
        rw [List.filter_flatMap, List.flatMap_eq_nil_iff]
        exact fun m below => foreign m (first m below).symm
      rw [own, none, List.append_nil]
    · rw [foreign m (first l later), List.nil_append, ih rest later]

end Level

namespace OperatorTable

theorem levels_apart (t : OperatorTable β) :
    t.levels.Pairwise fun l m => l.stratum ≠ m.stratum :=
  t.levels_pairwise.imp fun inside same => by
    rw [same] at inside
    exact Stratum.Inside.irrefl inside

theorem operators_of_mem_levels {t : OperatorTable β} {l : Level β} (level : l ∈ t.levels) :
    l.operators = t.among l.stratum := by
  rw [among_eq, Level.filter_flatMap t.levels_apart level]

theorem mem_levels_iff {t : OperatorTable β} {l : Level β} :
    l ∈ t.levels ↔ l.parsers ≠ [] ∧ l.operators = t.among l.stratum := by
  refine ⟨fun level => ⟨t.parsers_ne_nil l level, operators_of_mem_levels level⟩, ?_⟩
  rintro ⟨some, operators⟩
  obtain ⟨p, here⟩ := List.exists_mem_of_ne_nil _ some
  have inside : (⟨l.kind, l.precedence, p⟩ : Operator β) ∈ l.operators := List.mem_map_of_mem here
  have added := (List.mem_filter.1 (operators ▸ inside)).1
  obtain ⟨m, level, member⟩ := mem_levels.1 added
  have strata : m.stratum = l.stratum := (Level.stratum_of_mem member).symm
  have same : m.operators = l.operators := by
    rw [operators_of_mem_levels level, strata, operators]
  exact Level.ext_of_operators strata same ▸ level

theorem levels_eq_iff {t u : OperatorTable β} :
    t.levels = u.levels ↔ ∀ σ, t.among σ = u.among σ := by
  constructor
  · intro same σ
    rw [among_eq, among_eq, same]
  · intro same
    -- Both lists are in the order of strata, so it is enough that they have the same levels.
    have : Std.Asymm fun l m : Level β => l.stratum.Inside m.stratum :=
      ⟨fun _ _ inside back => Stratum.Inside.irrefl (inside.trans back)⟩
    refine t.levels_pairwise.eq_of_mem_iff u.levels_pairwise fun l => ?_
    rw [mem_levels_iff, mem_levels_iff, same]

end OperatorTable

inductive Connective (β : Type) where
  | unary (p : Parser β .unary)
  | binary (p : Parser β .binary)

namespace Connective

def ty : Connective β → Ty
  | unary _ => .unary
  | binary _ => .binary

def ofKind : (k : OperatorKind) → Parser β k.ty → Connective β
  | .before, p | .after, p => unary p
  | .leftAssoc, p | .rightAssoc, p | .nonAssoc, p => binary p

def at? : (k : OperatorKind) → Connective β → Option (Parser β k.ty)
  | .before, unary p | .after, unary p => some p
  | .leftAssoc, binary p | .rightAssoc, binary p | .nonAssoc, binary p => some p
  | _, _ => none

@[simp] theorem ty_ofKind (k : OperatorKind) (p : Parser β k.ty) : (ofKind k p).ty = k.ty := by
  cases k <;> rfl

@[simp] theorem at?_ofKind (k : OperatorKind) (p : Parser β k.ty) :
    (ofKind k p).at? k = some p := by
  cases k <;> rfl

theorem isSome_at?_iff {k : OperatorKind} {c : Connective β} :
    (c.at? k).isSome = true ↔ c.ty = k.ty := by
  cases k <;> cases c <;> simp [at?, ty]

end Connective

structure Registration (β : Type) where
  kind : OperatorKind
  precedence : Int
  connective : Connective β

structure Tier (β : Type) where
  kind : OperatorKind
  precedence : Int
  connectives : List (Connective β)

namespace Tier

def stratum (g : Tier β) : Stratum := ⟨g.precedence, g.kind⟩

def join (gs : List (Tier β)) (r : Registration β) : List (Tier β) :=
  match gs.getLast? with
  | some g =>
    if g.precedence = r.precedence ∧ g.kind = r.kind then
      gs.dropLast ++ [⟨g.kind, g.precedence, g.connectives ++ [r.connective]⟩]
    else gs ++ [⟨r.kind, r.precedence, [r.connective]⟩]
  | none => [⟨r.kind, r.precedence, [r.connective]⟩]

def level (g : Tier β) : Level β :=
  ⟨g.kind, g.precedence, g.connectives.filterMap (Connective.at? g.kind)⟩

end Tier

namespace Registration

def le (r s : Registration β) : Bool :=
  ((compare s.precedence r.precedence).then (compare r.kind.rank s.kind.rank)).isLE

def tiers (rs : List (Registration β)) : List (Tier β) :=
  (rs.mergeSort le).foldl Tier.join []

def expression (rs : List (Registration β)) (term : Parser β .base) : Parser β .base :=
  (tiers rs).foldl (fun operand g => g.level.wrap operand) term

end Registration

def Operator.registration (o : Operator β) : Registration β :=
  ⟨o.kind, o.precedence, .ofKind o.kind o.parser⟩

def OperatorTable.registrations (t : OperatorTable β) : List (Registration β) :=
  t.operators.map Operator.registration

def Level.tier (l : Level β) : Tier β :=
  ⟨l.kind, l.precedence, l.parsers.map (Connective.ofKind l.kind)⟩

namespace Tier

theorem length_level_iff {g : Tier β} :
    g.level.parsers.length = g.connectives.length ↔ ∀ c ∈ g.connectives, c.ty = g.kind.ty := by
  simp only [level, List.filterMap_length_eq_length, Connective.isSome_at?_iff]

@[simp] theorem level_tier (l : Level β) : l.tier.level = l := by
  obtain ⟨kind, precedence, parsers⟩ := l
  simp [Level.tier, level, List.filterMap_map]

theorem ty_of_mem_tier {l : Level β} {c : Connective β} (member : c ∈ l.tier.connectives) :
    c.ty = l.kind.ty := by
  obtain ⟨p, -, rfl⟩ := List.mem_map.1 member
  exact Connective.ty_ofKind _ p

theorem join_other {gs : List (Tier β)} {r : Registration β}
    (other : ∀ g ∈ gs, g.stratum ≠ ⟨r.precedence, r.kind⟩) :
    join gs r = gs ++ [⟨r.kind, r.precedence, [r.connective]⟩] := by
  obtain rfl | ⟨gs, g, rfl⟩ := List.eq_nil_or_concat' gs
  · rfl
  · have different := other g (by simp)
    simp only [stratum, ne_eq, Stratum.mk.injEq] at different
    simp [join, different]

theorem foldl_join_alike {gs : List (Tier β)} {kind : OperatorKind} {precedence : Int}
    {cs : List (Connective β)} {rs : List (Registration β)}
    (alike : ∀ r ∈ rs, r.precedence = precedence ∧ r.kind = kind) :
    rs.foldl join (gs ++ [⟨kind, precedence, cs⟩]) =
      gs ++ [⟨kind, precedence, cs ++ rs.map Registration.connective⟩] := by
  induction rs generalizing cs with
  | nil => simp
  | cons r rs ih =>
    obtain ⟨⟨rfl, rfl⟩, others⟩ := List.forall_mem_cons.1 alike
    have here : join (gs ++ [⟨r.kind, r.precedence, cs⟩]) r =
        gs ++ [⟨r.kind, r.precedence, cs ++ [r.connective]⟩] := by
      simp [join]
    rw [List.foldl_cons, here, ih others]
    simp

theorem foldl_join_levels {ls : List (Level β)} {gs : List (Tier β)}
    (some : ∀ l ∈ ls, l.parsers ≠ []) (apart : ls.Pairwise fun l m => l.stratum ≠ m.stratum)
    (other : ∀ g ∈ gs, ∀ l ∈ ls, g.stratum ≠ l.stratum) :
    ((ls.flatMap Level.operators).map Operator.registration).foldl join gs =
      gs ++ ls.map Level.tier := by
  induction ls generalizing gs with
  | nil => simp
  | cons l ls ih =>
    obtain ⟨some, someLater⟩ := List.forall_mem_cons.1 some
    obtain ⟨first, apart⟩ := List.pairwise_cons.1 apart
    have here : (l.operators.map Operator.registration).foldl join gs = gs ++ [l.tier] := by
      obtain ⟨kind, precedence, _ | ⟨p, ps⟩⟩ := l
      · exact (some rfl).elim
      have opened := join_other (r := ⟨kind, precedence, .ofKind kind p⟩)
        fun g member => other g member _ List.mem_cons_self
      simp only [Level.operators, Operator.registration, List.map_cons, List.foldl_cons, opened]
      rw [foldl_join_alike (by simp [Operator.registration])]
      simp [Level.tier, Operator.registration, Function.comp_def]
    rw [List.flatMap_cons, List.map_append, List.foldl_append, here, ih someLater apart]
    · simp
    · intro g member m below
      obtain before | same := List.mem_append.1 member
      · exact other g before m (List.mem_cons_of_mem _ below)
      · rw [List.mem_singleton.1 same]
        exact first m below

end Tier

theorem Operator.le_registration (o p : Operator β) :
    o.registration.le p.registration = o.le p := by
  rw [Bool.eq_iff_iff, Registration.le, Ordering.isLE_then_iff_or]
  simp only [registration, le, compare_lt_iff_lt, compare_eq_iff_eq, Nat.isLE_compare]
  by_cases same : o.precedence = p.precedence
  · simp [same]
  · simp [same, Ne.symm same]

theorem OperatorTable.tiers_registrations (t : OperatorTable β) :
    Registration.tiers t.registrations = t.levels.map Level.tier := by
  have sorted : t.registrations.mergeSort Registration.le =
      (t.operators.mergeSort Operator.le).map Operator.registration :=
    (List.map_mergeSort fun o _ p _ => (o.le_registration p).symm).symm
  rw [Registration.tiers, sorted, ← flatMap_levels,
    Tier.foldl_join_levels t.parsers_ne_nil t.levels_apart (by simp), List.nil_append]

/-- A level has all operators of its stratum, in the order in which they were added; strata further
inside come first. Two tables have the same levels exactly if they agree on every stratum. -/
theorem OperatorTable.levels_group_stably (t : OperatorTable β) :
    (t.levels.flatMap Level.operators).Perm t.operators ∧
    (∀ l ∈ t.levels, l.parsers ≠ [] ∧ l.operators = t.among l.stratum) ∧
    (t.levels.Pairwise (fun l m => l.stratum.Inside m.stratum) ∧
      (t.levels.map Level.stratum).Nodup) ∧
    ((Registration.tiers t.registrations).map Tier.level = t.levels ∧
      (∀ g ∈ Registration.tiers t.registrations, (∀ c ∈ g.connectives, c.ty = g.kind.ty) ∧
        g.level.parsers.length = g.connectives.length) ∧
      ∀ term, Registration.expression t.registrations term = t.expression term) ∧
    ∀ u : OperatorTable β, t.levels = u.levels ↔ ∀ σ, t.among σ = u.among σ := by
  have tiers := t.tiers_registrations
  have split : (Registration.tiers t.registrations).map Tier.level = t.levels := by
    simp [tiers, Function.comp_def]
  refine ⟨?_, fun l => mem_levels_iff.1, ⟨t.levels_pairwise, ?_⟩,
    ⟨split, fun g member => ?_, fun term => ?_⟩, fun u => levels_eq_iff⟩
  · rw [flatMap_levels]
    exact List.mergeSort_perm _ _
  · exact List.pairwise_map.2 t.levels_apart
  · rw [tiers] at member
    obtain ⟨l, -, rfl⟩ := List.mem_map.1 member
    have arity : ∀ c ∈ l.tier.connectives, c.ty = l.kind.ty := fun c => Tier.ty_of_mem_tier
    exact ⟨arity, Tier.length_level_iff.2 arity⟩
  · rw [expression, ← split, List.foldl_map, Registration.expression]

example :
    let op (kind : OperatorKind) (precedence : Int) : Operator Nat := ⟨kind, precedence, .zero⟩
    (OperatorTable.levels ⟨[op .leftAssoc 10, op .before 10, op .leftAssoc 10, op .rightAssoc 30,
      op .after 20]⟩).map (fun l => (l.kind, l.parsers.length)) =
      [(.rightAssoc, 1), (.after, 1), (.before, 1), (.leftAssoc, 2)] := by
  cbv

end Descent
