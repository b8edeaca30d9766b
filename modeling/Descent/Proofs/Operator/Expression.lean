import Mathlib.Data.List.Forall2
import Mathlib.Data.List.Nodup
import Mathlib.Tactic.Choose
import Mathlib.Tactic.ByContra
import Descent.Proofs.Operator.Levels
import Descent.Proofs.Parser.Reading
import Descent.Proofs.Token.Vocabulary
import Descent.Token.Terminal

set_option autoImplicit false

namespace Descent

/-- What an expression may be followed by: nothing that goes on with it. -/
def Sign.Ends (signs : List Sign) (rest : List Token) : Prop :=
  ∀ tok ∈ rest.head?, ∀ σ ∈ signs, σ.kind ≠ .before → σ.token ≠ tok

structure Sign.Distinct (accepts : Token → Bool) (signs : List Sign) : Prop where
  apart : ∀ σ ∈ signs, ∀ τ ∈ signs, (σ.kind = .before ↔ τ.kind = .before) →
    σ.token = τ.token → σ = τ
  terms : ∀ σ ∈ signs, accepts σ.token = false

def Tree.Prints (accepts : Token → Bool) (signs : List Sign) (x : Tree) (ts : List Token) : Prop :=
  x.Stratified accepts signs ∧ ts = x.print

def Parser.Spells {a : Ty} (calls : Calls Tree) (env : Env) (op : Parser Tree a)
    (build : Sign → a.Value Tree) (signs : List Sign) : Prop :=
  ∃ f : Token → Option (a.Value Tree), (op.eval calls).Takes env (fun l => f l.token) ∧
    ∀ tok v, f tok = some v ↔ ∃ σ ∈ signs, σ.token = tok ∧ v = build σ

section Level

open Descent.Action (Reads Refuses Star star_iff)
open Descent.Sign (Ends Distinct)
open Descent.Tree (Prints)

variable {a : Ty} {calls : Calls Tree} {env : Env} {ε : Stratum} {inner level : List Sign}
  {accepts : Token → Bool} {build : Sign → a.Value Tree} {op : Parser Tree a}
  {operand : Parser Tree .base}

theorem Parser.Spells.reads (spells : op.Spells calls env build level) :
    (op.eval calls).Reads env (fun v ts => ∃ σ, σ ∈ level ∧ v = build σ ∧ ts = [σ.token])
      fun _ => True := by
  obtain ⟨f, takes, spelled⟩ := spells
  refine takes.reads.congr (fun v ts => ?_) fun _ next => next
  constructor
  · rintro ⟨tok, value, rfl⟩
    obtain ⟨σ, member, rfl, rfl⟩ := (spelled tok v).1 value
    exact ⟨σ, member, rfl, rfl⟩
  · rintro ⟨σ, member, rfl, rfl⟩
    exact ⟨σ.token, (spelled σ.token _).2 ⟨σ, member, rfl, rfl⟩, rfl⟩

theorem Parser.Spells.refuses (spells : op.Spells calls env build level) :
    (op.eval calls).Refuses env fun ts => ∀ tok ∈ ts.head?, ∀ σ ∈ level, σ.token ≠ tok := by
  obtain ⟨f, takes, spelled⟩ := spells
  refine takes.refuses fun ts other tok first => ?_
  cases value : f tok with
  | none => rfl
  | some v =>
    obtain ⟨σ, member, same, -⟩ := (spelled tok v).1 value
    exact (other tok first σ member same).elim

theorem not_nil_of_spelled (v : a.Value Tree) (ts : List Token)
    (spelled : ∃ σ, σ ∈ level ∧ v = build σ ∧ ts = [σ.token]) : ts ≠ [] := by
  obtain ⟨σ, -, -, rfl⟩ := spelled
  exact List.cons_ne_nil _ _

theorem Sign.Distinct.ne (distinct : Distinct accepts (inner ++ level))
    (wraps : ε.Wraps inner level) {σ τ : Sign} (inside : τ ∈ inner) (here : σ ∈ level)
    (alike : τ.kind = .before ↔ σ.kind = .before) : τ.token ≠ σ.token := by
  intro same
  have equal : τ = σ := distinct.apart τ (List.mem_append_left _ inside) σ
    (List.mem_append_right _ here) alike same
  have lower := wraps.inside τ inside
  rw [equal, wraps.here σ here] at lower
  exact Stratum.Inside.irrefl lower

theorem Sign.Ends.inside {rest : List Token} (ends : Ends (inner ++ level) rest) :
    Ends inner rest :=
  fun tok first σ member => ends tok first σ (List.mem_append_left _ member)

theorem Sign.Distinct.ends (distinct : Distinct accepts (inner ++ level))
    (wraps : ε.Wraps inner level) (kind : ε.kind ≠ .before) {σ : Sign} (here : σ ∈ level)
    (rest : List Token) : Ends inner (σ.token :: rest) := by
  intro tok first τ inside other
  cases first
  have not_before : σ.kind ≠ .before := wraps.kind_eq here ▸ kind
  exact distinct.ne wraps inside here (iff_of_false other not_before)

theorem Parser.Spells.refuses_ends (spells : op.Spells calls env build level)
    (wraps : ε.Wraps inner level) (kind : ε.kind ≠ .before) :
    (op.eval calls).Refuses env (Ends (inner ++ level)) := by
  refine fun s ends => spells.refuses s fun tok first σ here => ?_
  exact ends tok first σ (List.mem_append_right _ here) (wraps.kind_eq here ▸ kind)

theorem reads_prefixOps {op : Parser Tree .unary} (wraps : ε.Wraps inner level)
    (kind : ε.kind = .before) (distinct : Distinct accepts (inner ++ level))
    (spells : op.Spells calls env Tree.unary level)
    (reads : (operand.eval calls).Reads env (Prints accepts inner) (Ends inner)) :
    ((Parser.prefixOps op operand).eval calls).Reads env (Prints accepts (inner ++ level))
      (Ends (inner ++ level)) := by
  have kinds : ∀ σ ∈ level, σ.kind = .before := fun σ member => kind ▸ wraps.kind_eq member
  -- The operand does not begin with an operator of the level.
  have joins : ∀ x ts rest, Prints accepts inner x ts → Ends inner rest →
      ∀ tok ∈ (ts ++ rest).head?, ∀ σ ∈ level, σ.token ≠ tok := by
    rintro x _ rest ⟨stratified, rfl⟩ - tok next σ here same
    obtain ⟨tok', ts, tokens, origin⟩ := stratified.first
    rw [tokens] at next
    cases next
    obtain term | ⟨τ, inside, before, same'⟩ := origin
    · rw [← same, distinct.terms σ (List.mem_append_right _ here)] at term
      cases term
    · have alike : τ.kind = .before ↔ σ.kind = .before := iff_of_true before (kinds σ here)
      exact distinct.ne wraps inside here alike (same'.trans same.symm)
  have many := Parser.reads_many spells.reads not_nil_of_spelled spells.refuses
    (fun _ _ _ _ => trivial) fun _ _ => trivial
  refine (Parser.reads_both many reads joins).congr (fun z ts => ?_) fun _ ends => ends.inside
  rw [Prints, wraps.unary_iff (.inl kind)]
  simp only [star_iff]
  constructor
  · rintro ⟨_, _, x, _, ⟨σs, members, rfl, rfl⟩, ⟨stratified, rfl⟩, rfl, rfl⟩
    refine ⟨⟨σs, x, members, stratified, by rw [List.foldr_map]⟩, ?_⟩
    rw [List.foldr_map, Tree.print_before fun σ member => kinds σ (members σ member),
      List.map_eq_flatMap]
  · rintro ⟨⟨σs, x, members, stratified, rfl⟩, rfl⟩
    refine ⟨_, _, x, _, ⟨σs, members, rfl, rfl⟩, ⟨stratified, rfl⟩, by rw [List.foldr_map], ?_⟩
    rw [Tree.print_before fun σ member => kinds σ (members σ member), List.map_eq_flatMap]

theorem reads_postfixOps {op : Parser Tree .unary} (wraps : ε.Wraps inner level)
    (kind : ε.kind = .after) (distinct : Distinct accepts (inner ++ level))
    (spells : op.Spells calls env Tree.unary level)
    (reads : (operand.eval calls).Reads env (Prints accepts inner) (Ends inner)) :
    ((Parser.postfixOps op operand).eval calls).Reads env (Prints accepts (inner ++ level))
      (Ends (inner ++ level)) := by
  have kinds : ∀ σ ∈ level, σ.kind = .after := fun σ member => kind ▸ wraps.kind_eq member
  have not_before : ε.kind ≠ .before := by simp [kind]
  have many := Parser.reads_many spells.reads not_nil_of_spelled
    (spells.refuses_ends wraps not_before) (fun _ _ _ _ => trivial) fun _ _ => trivial
  refine (Parser.reads_both reads many fun fs ts rest rounds ends => ?_).congr (fun z ts => ?_)
    fun _ ends => ends
  · obtain ⟨σs, members, -, rfl⟩ := star_iff.1 rounds
    cases σs with
    | nil => exact ends.inside
    | cons σ σs => exact distinct.ends wraps not_before (members σ List.mem_cons_self) _
  rw [Prints, wraps.unary_iff (.inr kind)]
  simp only [star_iff]
  constructor
  · rintro ⟨x, _, _, _, ⟨stratified, rfl⟩, ⟨σs, members, rfl, rfl⟩, rfl, rfl⟩
    rw [List.foldl_map, Tree.print_after fun σ member => kinds σ (members σ member),
      List.map_eq_flatMap]
    refine ⟨⟨σs.reverse, x, by simpa using members, stratified, ?_⟩, rfl⟩
    rw [List.foldr_reverse]
  · rintro ⟨⟨σs, x, members, stratified, rfl⟩, rfl⟩
    have members' : ∀ σ ∈ σs.reverse, σ ∈ level := by simpa using members
    refine ⟨x, _, _, _, ⟨stratified, rfl⟩, ⟨σs.reverse, members', rfl, rfl⟩, ?_, ?_⟩
    · rw [List.foldl_map, List.foldl_reverse]
    · rw [← List.foldl_reverse, Tree.print_after fun σ member => kinds σ (members' σ member),
        List.map_eq_flatMap]

def Tree.Tails (accepts : Token → Bool) (inner level : List Sign)
    (t : (Tree → Tree → Tree) × Tree) (ts : List Token) : Prop :=
  ∃ p : Sign × Tree, (p.1 ∈ level ∧ p.2.Stratified accepts inner) ∧
    t = (Tree.binary p.1, p.2) ∧ ts = p.1.token :: p.2.print

section Infix

open Descent.Tree (Tails)

variable {op : Parser Tree .binary}

theorem reads_tail (spells : op.Spells calls env Tree.binary level)
    (reads : (operand.eval calls).Reads env (Prints accepts inner) (Ends inner)) :
    ((Parser.tail op operand).eval calls).Reads env (Tails accepts inner level) (Ends inner) := by
  refine (Parser.reads_both spells.reads reads fun _ _ _ _ _ => trivial).congr (fun t ts => ?_)
    fun _ ends => ends
  constructor
  · rintro ⟨_, _, x, _, ⟨σ, here, rfl, rfl⟩, ⟨stratified, rfl⟩, rfl, rfl⟩
    exact ⟨(σ, x), ⟨here, stratified⟩, rfl, rfl⟩
  · rintro ⟨⟨σ, x⟩, ⟨here, stratified⟩, rfl, rfl⟩
    exact ⟨_, _, x, _, ⟨σ, here, rfl, rfl⟩, ⟨stratified, rfl⟩, rfl, rfl⟩

theorem refuses_tail (wraps : ε.Wraps inner level) (kind : ε.kind ≠ .before)
    (spells : op.Spells calls env Tree.binary level) :
    ((Parser.tail op operand).eval calls).Refuses env (Ends (inner ++ level)) :=
  (spells.refuses_ends wraps kind).bind

theorem ends_tail (wraps : ε.Wraps inner level) (kind : ε.kind ≠ .before)
    (distinct : Distinct accepts (inner ++ level)) {t : (Tree → Tree → Tree) × Tree}
    {ts : List Token} (tail : Tails accepts inner level t ts) (rest : List Token) :
    Ends inner (ts ++ rest) := by
  obtain ⟨p, ⟨here, -⟩, -, rfl⟩ := tail
  exact distinct.ends wraps kind here _

theorem ends_tails (wraps : ε.Wraps inner level) (kind : ε.kind ≠ .before)
    (distinct : Distinct accepts (inner ++ level)) {vs : List ((Tree → Tree → Tree) × Tree)}
    {ts rest : List Token}
    (tails : Star (a := .pair .binary .base) (Tails accepts inner level) vs ts)
    (ends : Ends (inner ++ level) rest) : Ends inner (ts ++ rest) := by
  cases vs with
  | nil =>
    cases tails
    exact ends.inside
  | cons v vs =>
    obtain ⟨us, ws, tail, -, rfl⟩ := tails
    rw [List.append_assoc]
    exact ends_tail wraps kind distinct tail _

theorem star_tails {vs : List ((Tree → Tree → Tree) × Tree)} {ts : List Token} :
    Star (a := .pair .binary .base) (Tails accepts inner level) vs ts ↔
      ∃ ps : List (Sign × Tree), (∀ p ∈ ps, p.1 ∈ level ∧ p.2.Stratified accepts inner) ∧
        vs = ps.map (fun p => (Tree.binary p.1, p.2)) ∧
        ts = ps.flatMap fun p => p.1.token :: p.2.print :=
  star_iff

theorem not_nil_of_tails (t : (Tree → Tree → Tree) × Tree) (ts : List Token)
    (tail : Tails accepts inner level t ts) : ts ≠ [] := by
  obtain ⟨p, -, -, rfl⟩ := tail
  exact List.cons_ne_nil _ _

theorem reads_infixL (wraps : ε.Wraps inner level) (kind : ε.kind = .leftAssoc)
    (distinct : Distinct accepts (inner ++ level))
    (spells : op.Spells calls env Tree.binary level)
    (reads : (operand.eval calls).Reads env (Prints accepts inner) (Ends inner)) :
    ((Parser.infixL op operand).eval calls).Reads env (Prints accepts (inner ++ level))
      (Ends (inner ++ level)) := by
  have not_before : ε.kind ≠ .before := by simp [kind]
  have tails : ∀ x, ((Parser.loop (a := .pair .binary .base) (b := .base) (Parser.tail op operand) 0
      none fun ts => ts.foldl (fun acc (f, w) => f acc w) x).eval calls).Reads env
      (fun z ts => ∃ vs : List ((Tree → Tree → Tree) × Tree),
        Star (a := .pair .binary .base) (Tails accepts inner level) vs ts ∧
          z = vs.foldl (fun acc (f, w) => f acc w) x)
      (Ends (inner ++ level)) :=
    fun x => (reads_tail spells reads).loop not_nil_of_tails (refuses_tail wraps not_before spells)
      (fun _ _ rest tail => ends_tail wraps not_before distinct tail rest) fun _ ends => ends.inside
  refine (reads.bind tails fun x z ts rest related ends => ?_).congr (fun z ts => ?_)
    fun _ ends => ends
  · obtain ⟨vs, rounds, -⟩ := related
    exact ends_tails wraps not_before distinct rounds ends
  rw [Prints, wraps.leftAssoc_iff kind]
  simp only [star_tails]
  constructor
  · rintro ⟨x, _, _, ⟨stratified, rfl⟩, ⟨_, ⟨ps, members, rfl, rfl⟩, rfl⟩, rfl⟩
    rw [List.foldl_map, Tree.print_leftAssoc]
    exact ⟨⟨x, ps, stratified, members, rfl⟩, rfl⟩
  · rintro ⟨⟨x, ps, stratified, members, rfl⟩, rfl⟩
    refine ⟨x, _, _, ⟨stratified, rfl⟩, ⟨_, ⟨ps, members, rfl, rfl⟩, ?_⟩, ?_⟩
    · rw [List.foldl_map]
    · rw [Tree.print_leftAssoc]

theorem reads_infixR (wraps : ε.Wraps inner level) (kind : ε.kind = .rightAssoc)
    (distinct : Distinct accepts (inner ++ level))
    (spells : op.Spells calls env Tree.binary level)
    (reads : (operand.eval calls).Reads env (Prints accepts inner) (Ends inner)) :
    ((Parser.infixR op operand).eval calls).Reads env (Prints accepts (inner ++ level))
      (Ends (inner ++ level)) := by
  have not_before : ε.kind ≠ .before := by simp [kind]
  have tails := Parser.reads_many (reads_tail spells reads) not_nil_of_tails
    (refuses_tail wraps not_before spells)
    (fun _ _ rest tail => ends_tail wraps not_before distinct tail rest) fun _ ends => ends.inside
  refine (Parser.reads_both reads tails fun vs ts rest rounds ends => ?_).congr (fun z ts => ?_)
    fun _ ends => ends
  · exact ends_tails wraps not_before distinct rounds ends
  rw [Prints, wraps.rightAssoc_iff kind]
  simp only [star_tails]
  constructor
  · rintro ⟨x, _, _, _, ⟨stratified, rfl⟩, ⟨ps, members, rfl, rfl⟩, rfl, rfl⟩
    rw [Tree.print_rightAssoc]
    exact ⟨⟨x, ps, stratified, members, rfl⟩, rfl⟩
  · rintro ⟨⟨x, ps, stratified, members, rfl⟩, rfl⟩
    refine ⟨x, _, _, _, ⟨stratified, rfl⟩, ⟨ps, members, rfl, rfl⟩, rfl, ?_⟩
    rw [Tree.print_rightAssoc]

theorem reads_infixN (wraps : ε.Wraps inner level) (kind : ε.kind = .nonAssoc)
    (distinct : Distinct accepts (inner ++ level))
    (spells : op.Spells calls env Tree.binary level)
    (reads : (operand.eval calls).Reads env (Prints accepts inner) (Ends inner)) :
    ((Parser.infixN op operand).eval calls).Reads env (Prints accepts (inner ++ level))
      (Ends (inner ++ level)) := by
  have not_before : ε.kind ≠ .before := by simp [kind]
  have tail := (reads_tail spells reads).congr (fun _ _ => Iff.rfl)
    fun ts (ends : Ends (inner ++ level) ts) => ends.inside
  have perhaps := Parser.reads_optional tail (refuses_tail wraps not_before spells)
  refine (Parser.reads_both reads perhaps fun o ts rest related ends => ?_).congr (fun z ts => ?_)
    fun _ ends => ends
  · cases o with
    | none =>
      cases related
      exact ends.inside
    | some t => exact ends_tail wraps not_before distinct related rest
  rw [Prints, wraps.nonAssoc_iff kind]
  constructor
  · rintro ⟨x, _, o, _, ⟨stratified, rfl⟩, related, rfl, rfl⟩
    cases o with
    | none =>
      cases related
      exact ⟨⟨x, stratified, .inl rfl⟩, by simp⟩
    | some t =>
      obtain ⟨⟨σ, y⟩, ⟨here, stratified'⟩, rfl, rfl⟩ := related
      exact ⟨⟨x, stratified, .inr ⟨σ, here, y, stratified', rfl⟩⟩, rfl⟩
  · rintro ⟨⟨x, stratified, rfl | ⟨σ, here, y, stratified', rfl⟩⟩, rfl⟩
    · exact ⟨z, _, none, [], ⟨stratified, rfl⟩, rfl, rfl, by simp⟩
    · exact ⟨x, _, some (Tree.binary σ, y), _, ⟨stratified, rfl⟩,
        ⟨(σ, y), ⟨here, stratified'⟩, rfl, rfl⟩, rfl, rfl⟩

end Infix

theorem Level.reads_wrap {l : Level Tree} (wraps : l.stratum.Wraps inner level)
    (distinct : Distinct accepts (inner ++ level))
    (spells : (Parser.plus l.parsers).Spells calls env (Tree.node · l.kind) level)
    (reads : (operand.eval calls).Reads env (Prints accepts inner) (Ends inner)) :
    ((l.wrap operand).eval calls).Reads env (Prints accepts (inner ++ level))
      (Ends (inner ++ level)) := by
  obtain ⟨kind, precedence, parsers⟩ := l
  cases kind with
  | before => exact reads_prefixOps wraps rfl distinct spells reads
  | after => exact reads_postfixOps wraps rfl distinct spells reads
  | leftAssoc => exact reads_infixL wraps rfl distinct spells reads
  | rightAssoc => exact reads_infixR wraps rfl distinct spells reads
  | nonAssoc => exact reads_infixN wraps rfl distinct spells reads

end Level

def Operator.Spells (calls : Calls Tree) (o : Operator Tree) (σ : Sign) : Prop :=
  o.stratum = σ.stratum ∧
    o.parser.Takes calls fun l => if l.token = σ.token then some (Tree.node σ o.kind) else none

section Levels

open Descent.Action (Reads)
open Descent.Sign (Ends Distinct)
open Descent.Tree (Prints)

variable {calls : Calls Tree} {sign : Operator Tree → Sign} {accepts : Token → Bool}
  {run : TokenRun} {origin : String} {positions : PositionMap}

theorem Level.spells {l : Level Tree} (each : ∀ o ∈ l.operators, o.Spells calls (sign o)) :
    (Parser.plus l.parsers).Spells calls (Env.ofTokens run origin positions) (Tree.node · l.kind)
      (l.operators.map sign) := by
  let signOf (p : Parser Tree l.kind.ty) : Sign := sign ⟨l.kind, l.precedence, p⟩
  have spelled : ∀ p ∈ l.parsers, Operator.Spells calls ⟨l.kind, l.precedence, p⟩ (signOf p) :=
    fun p member => each _ (List.mem_map_of_mem member)
  let value (p : Parser Tree l.kind.ty) (tok : Token) : Option (l.kind.ty.Value Tree) :=
    if tok = (signOf p).token then some (Tree.node (signOf p) l.kind) else none
  have found : ∀ tok v, l.parsers.findSome? (value · tok) = some v →
      ∃ p ∈ l.parsers, (signOf p).token = tok ∧ v = Tree.node (signOf p) l.kind := by
    intro tok v taken
    obtain ⟨p, member, here⟩ := List.exists_of_findSome?_eq_some taken
    simp only [value] at here
    split at here
    case isTrue same =>
      cases here
      exact ⟨p, member, same.symm, rfl⟩
    case isFalse => cases here
  refine ⟨fun tok => l.parsers.findSome? (value · tok), ?_, fun tok v => ⟨fun taken => ?_, ?_⟩⟩
  · exact Action.takes_plus (f := fun p l => value p l.token)
      fun p member => (spelled p member).2 run origin positions
  · obtain ⟨p, member, same, built⟩ := found tok v taken
    exact ⟨signOf p, List.mem_map_of_mem (List.mem_map_of_mem member), same, built⟩
  · rintro ⟨σ, member, rfl, rfl⟩
    obtain ⟨o, below, rfl⟩ := List.mem_map.1 member
    obtain ⟨p, inside, rfl⟩ := List.mem_map.1 below
    -- The first parser that takes the token may be another one, but its sign is the same.
    have some : (l.parsers.findSome? (value · (signOf p).token)).isSome := by
      rw [List.findSome?_isSome_iff]
      exact ⟨p, inside, by simp [value]⟩
    obtain ⟨w, taken⟩ := Option.isSome_iff_exists.1 some
    obtain ⟨q, inside', same, rfl⟩ := found _ w taken
    have strata : (signOf q).stratum = (signOf p).stratum :=
      (spelled q inside').1.symm.trans (spelled p inside).1
    have equal : signOf q = signOf p := by
      cases hq : signOf q
      cases hp : signOf p
      simp_all
    rw [equal] at taken
    exact taken

def Level.signs (sign : Operator Tree → Sign) (ls : List (Level Tree)) : List Sign :=
  ls.flatMap fun l => l.operators.map sign

theorem Level.reads_foldl {ls : List (Level Tree)} {inner : List Sign}
    {operand : Parser Tree .base}
    (each : ∀ l ∈ ls, ∀ o ∈ l.operators, o.Spells calls (sign o))
    (inside : ∀ l ∈ ls, ∀ σ ∈ inner, σ.stratum.Inside l.stratum)
    (sorted : ls.Pairwise fun l m => l.stratum.Inside m.stratum)
    (distinct : Distinct accepts (inner ++ Level.signs sign ls))
    (reads : (operand.eval calls).Reads (Env.ofTokens run origin positions)
      (Prints accepts inner) (Ends inner)) :
    ((ls.foldl Level.wrap operand).eval calls).Reads (Env.ofTokens run origin positions)
      (Prints accepts (inner ++ Level.signs sign ls)) (Ends (inner ++ Level.signs sign ls)) := by
  induction ls generalizing inner operand with
  | nil => simpa [signs] using reads
  | cons l ls ih =>
    obtain ⟨each, eachLater⟩ := List.forall_mem_cons.1 each
    obtain ⟨below, belowLater⟩ := List.forall_mem_cons.1 inside
    obtain ⟨before, sortedLater⟩ := List.pairwise_cons.1 sorted
    have split : inner ++ signs sign (l :: ls) =
        (inner ++ l.operators.map sign) ++ signs sign ls := by
      simp [signs]
    rw [split] at distinct ⊢
    have strata : ∀ σ ∈ l.operators.map sign, σ.stratum = l.stratum := by
      intro σ member
      obtain ⟨o, here, rfl⟩ := List.mem_map.1 member
      rw [← (each o here).1, stratum_of_mem here]
    have wraps : l.stratum.Wraps inner (l.operators.map sign) := ⟨below, strata⟩
    have distinctHere : Distinct accepts (inner ++ l.operators.map sign) := by
      refine ⟨fun σ one τ other => ?_, fun σ member => ?_⟩
      · exact distinct.apart σ (List.mem_append_left _ one) τ (List.mem_append_left _ other)
      · exact distinct.terms σ (List.mem_append_left _ member)
    refine ih eachLater (fun m member σ σMember => ?_) sortedLater distinct
      (reads_wrap wraps distinctHere (Level.spells each) reads)
    obtain inside | here := List.mem_append.1 σMember
    · exact belowLater m member σ inside
    · rw [strata σ here]
      exact before m member

theorem Operator.Spells.unique {o : Operator Tree} {σ τ : Sign} (one : o.Spells calls σ)
    (other : o.Spells calls τ) : σ = τ := by
  have here := congrFun (one.2.unique other.2) ⟨0, 0, σ.token⟩
  have same : σ.token = τ.token := by
    by_contra different
    simp [different] at here
  have strata : σ.stratum = τ.stratum := one.1.symm.trans other.1
  cases σ
  cases τ
  simp_all

theorem reads_term {term : Parser Tree .base}
    (taken : term.Takes calls fun l => if accepts l.token then some (.leaf l.token) else none) :
    (term.eval calls).Reads (Env.ofTokens run origin positions) (Prints accepts []) (Ends []) := by
  have reads : (term.eval calls).Reads (Env.ofTokens run origin positions)
      (fun z ts => ∃ tok,
        (if accepts tok then some (Tree.leaf tok) else none) = some z ∧ ts = [tok])
      fun _ => True := (taken run origin positions).reads
  refine reads.congr (fun z ts => ?_) fun _ _ => trivial
  constructor
  · rintro ⟨tok, value, rfl⟩
    split at value
    case isTrue accepted =>
      cases value
      exact ⟨accepted, rfl⟩
    case isFalse => cases value
  · rintro ⟨stratified, rfl⟩
    cases z with
    | leaf tok => exact ⟨tok, if_pos stratified, rfl⟩
    | unary σ x => cases stratified.1
    | binary σ l r => cases stratified.1

end Levels

theorem Sign.distinct_of_nodup {accepts : Token → Bool} {signs : List Sign}
    (before : ((signs.filter (·.kind = .before)).map Sign.token).Nodup)
    (others : ((signs.filter (·.kind ≠ .before)).map Sign.token).Nodup)
    (terms : ∀ σ ∈ signs, accepts σ.token = false) : Sign.Distinct accepts signs := by
  refine ⟨fun σ one τ other alike same => ?_, terms⟩
  by_cases kind : σ.kind = .before
  · have one' : σ ∈ signs.filter (·.kind = .before) := by simp [one, kind]
    have other' : τ ∈ signs.filter (·.kind = .before) := by simp [other, alike.1 kind]
    exact List.inj_on_of_nodup_map before one' other' same
  · have kind' : τ.kind ≠ .before := fun h => kind (alike.2 h)
    have one' : σ ∈ signs.filter (·.kind ≠ .before) := by simp [one, kind]
    have other' : τ ∈ signs.filter (·.kind ≠ .before) := by simp [other, kind']
    exact List.inj_on_of_nodup_map others one' other' same

theorem exists_of_forall₂ {α γ : Type} {R : α → γ → Prop} {l : List α} {m : List γ}
    (related : List.Forall₂ R l m) : ∀ x ∈ l, ∃ y ∈ m, R x y := by
  induction related with
  | nil => simp
  | cons head _ ih =>
    refine List.forall_mem_cons.2 ⟨⟨_, List.mem_cons_self, head⟩, fun x member => ?_⟩
    obtain ⟨y, below, related⟩ := ih x member
    exact ⟨y, List.mem_cons_of_mem _ below, related⟩

/-- The parser of a table succeeds with a tree exactly if the tree is one of the table's grammar and
the tokens are its own. -/
theorem OperatorTable.expression_iff_stratified (calls : Calls Tree) (t : OperatorTable Tree)
    (term : Parser Tree .base) (accepts : Token → Bool) (signs : List Sign)
    (spelled : List.Forall₂ (Operator.Spells calls) t.operators signs)
    (taken : term.Takes calls fun l => if accepts l.token then some (.leaf l.token) else none)
    (before : ((signs.filter (·.kind = .before)).map Sign.token).Nodup)
    (others : ((signs.filter (·.kind ≠ .before)).map Sign.token).Nodup)
    (terms : ∀ σ ∈ signs, accepts σ.token = false)
    (run : TokenRun) (origin label : String) (positions : PositionMap) (lookahead : Nat)
    (s : State Tree) (z : Tree) :
    ((Parser.seqLeft (t.expression term) (.eof label)).eval calls
        (Env.ofTokens run origin positions) lookahead s).reply = .ok z ↔
      z.Stratified accepts signs ∧
        (run.lexemes.toList.drop s.offset).map Lexeme.token = z.print := by
  have each : ∀ o ∈ t.operators, ∃ σ ∈ signs, o.Spells calls σ := exists_of_forall₂ spelled
  have every : ∀ σ ∈ signs, ∃ o ∈ t.operators, o.Spells calls σ := exists_of_forall₂ spelled.flip
  have : Nonempty Sign := ⟨⟨⟨0, .before⟩, .eof⟩⟩
  choose! sign member spells using each
  have same : ∀ σ, σ ∈ Level.signs sign t.levels ↔ σ ∈ signs := by
    intro σ
    simp only [Level.signs, List.mem_flatMap, List.mem_map]
    constructor
    · rintro ⟨l, level, o, here, rfl⟩
      exact member o (mem_levels.2 ⟨l, level, here⟩)
    · intro σMember
      obtain ⟨o, below, spelled⟩ := every σ σMember
      obtain ⟨l, level, here⟩ := mem_levels.1 below
      exact ⟨l, level, o, here, (spells o below).unique spelled⟩
  have distinct : Sign.Distinct accepts ([] ++ Level.signs sign t.levels) := by
    have all := Sign.distinct_of_nodup before others terms
    exact ⟨fun σ one τ other => all.apart σ ((same σ).1 one) τ ((same τ).1 other),
      fun σ here => all.terms σ ((same σ).1 here)⟩
  have base : (term.eval calls).Reads (Env.ofTokens run origin positions)
      (Tree.Prints accepts []) (Sign.Ends []) := reads_term taken
  have reads := Level.reads_foldl (fun l level o here => spells o (mem_levels.2 ⟨l, level, here⟩))
    (by simp) t.levels_pairwise distinct base
  have nothing : Sign.Ends ([] ++ Level.signs sign t.levels) [] := by
    rintro tok ⟨⟩
  refine (Parser.whole_iff reads nothing).trans (and_congr_left fun _ => ?_)
  exact ⟨.mono fun σ => (same σ).1, .mono fun σ => (same σ).2⟩

theorem Vocabulary.takes_tokenParser {β : Type} {a : Ty} {calls : Calls β} {v : Vocabulary β}
    {name : String} {tok : Token} {lexer : Lexer β} (known : v.token name = .ok tok)
    (made : v.tokenParser name = .ok lexer) (w : a.Value β) :
    (Parser.seqRight lexer (.ret w)).Takes calls
      fun l => if l.token = tok then some w else none := by
  intro run origin positions
  rw [tokenParser_eq known] at made
  cases made
  have one := Parser.takes_exactly calls name tok run origin positions
  have replaced : (fun l : Lexeme => if l.token = tok then some w else none) =
      fun l => (if decide (l.token = tok) then some l else none).map fun _ => w := by
    funext l
    by_cases same : l.token = tok <;> simp [same]
  rw [replaced]
  exact one.mapRet fun _ => w

def Operator.ofSign (σ : Sign) : Operator Tree :=
  ⟨σ.kind, σ.stratum.precedence, Parser.seqRight (.exactly σ.token.render σ.token)
    (.ret (a := σ.kind.ty) (Tree.node σ σ.kind))⟩

theorem Operator.ofSign_spells {calls : Calls Tree} {v : Vocabulary Tree} {σ : Sign}
    (known : v.token σ.token.render = .ok σ.token) : (ofSign σ).Spells calls σ :=
  ⟨rfl, Vocabulary.takes_tokenParser known (Vocabulary.tokenParser_eq known) _⟩

def Sign.arithmetic : List Sign :=
  [⟨⟨40, .rightAssoc⟩, .reserved ":"⟩, ⟨⟨40, .leftAssoc⟩, .reserved "+"⟩,
    ⟨⟨40, .leftAssoc⟩, .reserved "-"⟩, ⟨⟨50, .leftAssoc⟩, .reserved "*"⟩,
    ⟨⟨60, .rightAssoc⟩, .reserved "^"⟩, ⟨⟨70, .before⟩, .reserved "-"⟩,
    ⟨⟨70, .after⟩, .reserved "!"⟩, ⟨⟨30, .nonAssoc⟩, .reserved "="⟩]

theorem OperatorTable.arithmetic_reads_equation :
    let accepts (tok : Token) : Bool := (tok.wordText? .integer).isSome
    let term : Parser Tree .base := Terminal.integer fun l _ => .leaf l.token
    let number (text : String) : Tree := .leaf (.word .integer text)
    let sign (precedence : Int) (kind : OperatorKind) (text : String) : Sign :=
      ⟨⟨precedence, kind⟩, .reserved text⟩
    let power : Tree := .binary (sign 60 .rightAssoc "^")
      (.unary (sign 70 .after "!") (.unary (sign 70 .before "-") (number "2")))
      (.binary (sign 60 .rightAssoc "^") (number "3") (number "4"))
    let product : Tree := .binary (sign 50 .leftAssoc "*") (number "5") (number "6")
    let z : Tree := .binary (sign 30 .nonAssoc "=")
      (.binary (sign 40 .rightAssoc ":") (.binary (sign 40 .leftAssoc "-") power product)
        (.binary (sign 40 .leftAssoc "+") (number "7") (number "8")))
      (number "9")
    let run : TokenRun := ⟨[], (z.print.map fun tok => ⟨0, 0, tok⟩).toArray, 0, "", Token.render⟩
    let env : Env := Env.ofTokens run "line" (PositionMap.ofSource [])
    z.Stratified accepts Sign.arithmetic ∧
      ((Parser.seqLeft (expression ⟨Sign.arithmetic.map Operator.ofSign⟩ term) (.eof "end")).eval
        (Rules.calls [] 0) env 1 (env.stateAt .start)).reply = .ok z := by
  intro accepts term number sign power product z run env
  let v : Vocabulary Tree := ⟨⟨[":", "+", "-", "*", "^", "!", "="]⟩, none⟩
  have known : ∀ σ ∈ Sign.arithmetic, v.token σ.token.render = .ok σ.token := by
    simp only [Sign.arithmetic, List.forall_mem_cons]
    exact ⟨rfl, rfl, rfl, rfl, rfl, rfl, rfl, rfl, by simp⟩
  have spelled : List.Forall₂ (Operator.Spells (Rules.calls [] 0))
      (Sign.arithmetic.map Operator.ofSign) Sign.arithmetic :=
    List.forall₂_map_left_iff.2 (List.forall₂_same.2 fun σ member =>
      Operator.ofSign_spells (known σ member))
  have taken : term.Takes (Rules.calls [] 0)
      fun l => if accepts l.token then some (.leaf l.token) else none := by
    intro run origin positions
    have plain : (fun l : Lexeme => if accepts l.token then some (Tree.leaf l.token) else none) =
        fun l => (l.token.wordText? .integer).map fun _ => Tree.leaf l.token := by
      funext l
      cases text : l.token.wordText? .integer <;> simp [accepts, text]
    rw [plain]
    exact Action.takes_token.named "integer"
  have stratified : z.Stratified accepts Sign.arithmetic := by decide
  refine ⟨stratified, (expression_iff_stratified _ _ term accepts Sign.arithmetic spelled taken
    (by decide) (by decide) (by decide) run "line" "end" _ 1 _ z).2 ⟨stratified, ?_⟩⟩
  rfl

end Descent
