import Descent.Proofs.Parser.Discreet

set_option autoImplicit false

namespace Descent

open Descent.Action Descent.Parser

variable {β : Type} {calls : Calls β} {env : Env}

namespace Lexeme

def Stands (lo : Nat) (l : Lexeme) (hi : Nat) : Prop := l.index = lo ∧ lo + l.length = hi

structure Apart (lo : Nat) (ls : List Lexeme) (hi : Nat) : Prop where
  pairwise : ls.Pairwise fun l m => l.index + l.length ≤ m.index
  within : ∀ l ∈ ls, lo ≤ l.index ∧ l.index + l.length ≤ hi

theorem apart_of_row {gap : Nat → Nat → Prop} (onward : ∀ i j, gap i j → i ≤ j) {lo hi : Nat}
    {ls : List Lexeme} (row : Row gap Stands lo ls hi) : Apart lo ls hi := by
  induction ls generalizing lo with
  | nil => exact ⟨.nil, by simp⟩
  | cons l ls ih =>
    -- The first token ends where the others begin, which are after it for that reason.
    obtain ⟨i, j, before, ⟨index, length⟩, rest⟩ := row
    have apart := ih rest
    have start := onward lo i before
    have stop : j ≤ hi := rest.le onward fun i l j stands => stands.2 ▸ Nat.le_add_right i _
    refine ⟨.cons (fun m member => ?_) apart.pairwise, ?_⟩
    · have := (apart.within m member).1
      omega
    · refine List.forall_mem_cons.2 ⟨by omega, fun m member => ?_⟩
      have := apart.within m member
      omega

end Lexeme

/-- The lexer consists of scanners with readers, and of alternations, which may have names. -/
inductive Lexer.MadeOfLex : Lexer β → Prop
  | lex {a : Ty} {scanner : Parser β a} (reader : TokenReader) (discreet : scanner.Discreet) :
    MadeOfLex (.lex scanner reader)
  | sum {n : Nat} {branches : Fin n → Lexer β} (each : ∀ i, MadeOfLex (branches i)) :
    MadeOfLex (.sum n branches)
  | favored (preference : Preference) {n : Nat} {branches : Fin n → Lexer β}
    (each : ∀ i, MadeOfLex (branches i)) : MadeOfLex (.favored preference n branches)
  | named (name : String) {p : Lexer β} (part : MadeOfLex p) : MadeOfLex (.named name p)

namespace Lexer

theorem MadeOfLex.branches {p : Lexer β} (made : p.MadeOfLex) : ∀ q ∈ p.branches, MadeOfLex q := by
  intro q member
  cases made with
  | sum each =>
    obtain ⟨i, rfl⟩ := List.mem_ofFn.1 member
    exact each i
  | lex reader discreet => exact List.mem_singleton.1 member ▸ .lex reader discreet
  | favored preference each => exact List.mem_singleton.1 member ▸ .favored preference each
  | named name part => exact List.mem_singleton.1 member ▸ .named name part

theorem madeOfLex_plus {ps : List (Lexer β)} (each : ∀ p ∈ ps, MadeOfLex p) :
    MadeOfLex (plus ps) := by
  refine .sum fun i => ?_
  have member : (ps.flatMap Parser.branches).toArray[i] ∈ ps.flatMap Parser.branches := by
    simp
  obtain ⟨p, isPart, isBranch⟩ := List.mem_flatMap.1 member
  exact (each p isPart).branches _ isBranch

theorem MadeOfLex.spans {rules : Rules β} {depth : Nat}
    (discreet : ∀ name p, rules.find? name = some p → p.Discreet) {p : Lexer β} (made : p.MadeOfLex)
    (env : Env) :
    Parser.Spans (a := .lexeme) (rules.calls depth) env Lexeme.Stands
      (fun lo sig hi => lo ≤ hi ∧ sig.key.id ≠ .listEnd) p := by
  induction made with
  | lex reader scanner =>
    have onward := (scanner.onward discreet depth).eval.spans env
    -- A token has the range that its scanner has taken, whatever the reader makes of it.
    refine .of_eval ((spans_lex reader onward).mono ?_
      fun _ _ _ raised => raised.imp_left And.left) rfl
    rintro lo l hi ⟨index, length, -, le, -⟩
    exact ⟨index, by omega⟩
  | sum _ ih => exact spans_branches ih
  | favored preference _ ih =>
    refine .of_eval (spans_favored preference fun x member => ?_) rfl
    obtain ⟨i, rfl⟩ := List.mem_ofFn.1 member
    exact (ih i).eval
  | named name _ ih => exact .of_eval (spans_named name ih.eval) rfl

def Gap (calls : Calls β) (env : Env) (delimiter : Scanner β) (lo hi : Nat) : Prop :=
  hi = lo ∨ ∃ (u v : State β), (delimiter.eval calls).run env u = ⟨.ok (), v⟩ ∧
    u.offset = lo ∧ v.offset = hi ∧ lo ≤ hi

theorem spans_gap {rules : Rules β} (depth : Nat)
    (discreet : ∀ name p, rules.find? name = some p → p.Discreet) {delimiter : Scanner β}
    (quiet : delimiter.Discreet) (env : Env) :
    (delimiter.eval (rules.calls depth)).Spans env
      (fun lo _ hi => Gap (rules.calls depth) env delimiter lo hi)
      fun lo sig hi => lo ≤ hi ∧ sig.key.id ≠ .listEnd := by
  intro s
  have onward := (quiet.onward discreet depth).eval.spans env s
  rcases ran : (delimiter.eval (rules.calls depth)).run env s with ⟨(_ | _ | _ | _ | _) | v, t⟩
  all_goals rw [ran] at onward
  case ok => exact .inr ⟨s, t, ran, rfl, rfl, onward.1⟩
  case error.signal => exact onward.imp_left And.left
  all_goals trivial

theorem lexemes_row {rules : Rules β} {depth : Nat}
    (discreet : ∀ name p, rules.find? name = some p → p.Discreet) {delimiter : Scanner β}
    (quiet : delimiter.Discreet) {lexer : Lexer β} (made : lexer.MadeOfLex) {env : Env} {n : Nat}
    {s t : State β} {ls : List Lexeme}
    (ran : (lexemes delimiter lexer).eval (rules.calls depth) env n s = ⟨.ok ls, t⟩) :
    Row (Gap (rules.calls depth) env delimiter) Lexeme.Stands s.offset ls t.offset ∧
      Lexeme.Apart s.offset ls t.offset := by
  have gaps := spans_gap depth discreet quiet env
  have onward : ∀ i j, Gap (rules.calls depth) env delimiter i j → i ≤ j := by
    rintro i j (rfl | ⟨-, -, -, -, -, le⟩)
    · exact Nat.le_refl _
    · exact le
  have outbound : Outbound (a := .lexeme) (Gap (rules.calls depth) env delimiter) Lexeme.Stands
      fun lo (sig : Signal β) hi => lo ≤ hi ∧ sig.key.id ≠ .listEnd :=
    ⟨And.right, fun _ raised => raised,
      fun gap raised => ⟨Nat.le_trans (onward _ _ gap) raised.1, raised.2⟩,
      fun stands raised => ⟨by have := stands.2; omega, raised.2⟩⟩
  have spans := spans_lexemes (fun _ => .inl rfl) outbound gaps (made.spans discreet env) s
  have same : ((lexemes delimiter lexer).eval (rules.calls depth)).run env s = ⟨.ok ls, t⟩ := ran
  rw [same] at spans
  exact ⟨spans, Lexeme.apart_of_row onward spans⟩

end Lexer

end Descent
