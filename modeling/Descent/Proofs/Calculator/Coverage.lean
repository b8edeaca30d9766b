import Descent.Proofs.Calculator.Layout
import Descent.Proofs.Token.Lexemes

set_option autoImplicit false

namespace Descent

open Descent.Action Descent.Parser
open Text (size)

variable {w : Window}

theorem Window.rest?_zero (text : List Char) :
    (Window.make text (size text)).rest? 0 = some text := by
  have whole := Text.take?_size_append text []
  rw [List.append_nil] at whole
  rw [rest?_eq_slice?, Text.slice?_eq_bind]
  simp [Window.make, whole]

namespace Lexeme

/-- From `k` on the text consists of blanks and of what the tokens show, each where it says. -/
def Cover : Nat → List Lexeme → List Char → Prop
  | _, [], s => ∀ c ∈ s, Text.isBlank c = true
  | k, l :: ls, s => ∃ gap rest, s = gap ++ (l.token.render.toList ++ rest) ∧
      (∀ c ∈ gap, Text.isBlank c = true) ∧ l.index = k + size gap ∧
      l.length = size l.token.render.toList ∧ Cover (l.index + l.length) ls rest

variable {ls : List Lexeme} {k hi : Nat} {s : List Char}

theorem cover_of_row (row : Row w.Blank (Shown w) k ls hi) (here : w.rest? k = some s)
    (past : w.stop ≤ hi) : Cover k ls s := by
  induction ls generalizing k s with
  | nil =>
    -- The lexer has read to the end, so there is no text after the last gap.
    have length := Window.size_rest? here
    rcases row with rfl | ⟨p, rest, here', rfl, blank⟩
    · have none : s = [] := by
        by_contra some
        have := Text.size_pos some
        omega
      simp [Cover, none]
    · obtain rfl := Option.some.inj (here.symm.trans here')
      have none : rest = [] := by
        by_contra some
        have := Text.size_pos some
        rw [Text.size_append] at length
        omega
      simpa [Cover, none] using blank
  | cons l ls ih =>
    obtain ⟨i, j, before, ⟨index, length, -, stop, rest, there⟩, row⟩ := row
    have begins : ∃ gap, s = gap ++ (l.token.render.toList ++ rest) ∧ i = k + size gap ∧
        ∀ c ∈ gap, Text.isBlank c = true := by
      rcases before with rfl | ⟨p, after, here', rfl, blank⟩
      · exact ⟨[], Option.some.inj (here.symm.trans there), rfl, by simp⟩
      · rw [Window.rest?_append here'] at there
        obtain rfl := Option.some.inj there
        exact ⟨p, Option.some.inj (here.symm.trans here'), rfl, blank⟩
    obtain ⟨gap, rfl, rfl, blank⟩ := begins
    refine ⟨gap, rest, rfl, blank, index, length, ?_⟩
    rw [index, ← stop]
    refine ih row ?_
    rw [stop, length]
    exact Window.rest?_append there

theorem eq_or_of_append_eq {α : Type} {u v p r : List α} {c : α} (split : u ++ v = p ++ c :: r) :
    (∃ q, u = p ++ c :: q) ∨ ∃ q, p = u ++ q ∧ v = q ++ c :: r := by
  rcases List.append_eq_append_iff.1 split with ⟨q, inside, after⟩ | ⟨q, inside, after⟩
  · exact .inr ⟨q, inside, after⟩
  · cases q with
    | nil => exact .inr ⟨[], by simpa using inside.symm, by simpa using after.symm⟩
    | cons d q =>
      obtain ⟨rfl, -⟩ := List.cons.inj after
      exact .inl ⟨q, inside⟩

theorem Cover.blank (cover : Cover k ls s) {p r : List Char} {c : Char} (split : s = p ++ c :: r)
    (outside : ∀ l ∈ ls, ¬ (l.index ≤ k + size p ∧ k + size p < l.index + l.length)) :
    Text.isBlank c = true := by
  induction ls generalizing k s p with
  | nil => exact cover c (by simp [split])
  | cons l ls ih =>
    obtain ⟨gap, rest, rfl, blank, index, length, cover⟩ := cover
    obtain ⟨here, later⟩ := List.forall_mem_cons.1 outside
    obtain ⟨q, rfl⟩ | ⟨q, rfl, after⟩ := eq_or_of_append_eq split
    · exact blank c (by simp)
    obtain ⟨q', shown⟩ | ⟨q', rfl, follows⟩ := eq_or_of_append_eq after
    · refine absurd ?_ here
      rw [index, length, shown]
      simp only [Text.size_append, Text.size_cons]
      have := c.utf8Size_pos
      omega
    · refine ih cover follows fun m member => ?_
      have := later m member
      simp only [Text.size_append] at this
      rw [index, length]
      simpa only [Nat.add_assoc] using this

end Lexeme

namespace Calculator

theorem covered_of_tokens {text : String} {ls : List Lexeme} (lexed : tokens text = .ok ls) :
    Lexeme.Cover 0 ls text.toList ∧ Lexeme.Apart 0 ls (size text.toList) ∧
      ∀ l ∈ ls, Text.slice? text.toList l.index (l.index + l.length) =
        some l.token.render.toList := by
  let calls : Calls Float := Rules.calls [] 0
  let w := Window.make text.toList (size text.toList)
  have input : (envOf text).input = .chars w := rfl
  obtain ⟨t, read⟩ := lexed_of_tokens lexed calls
  have spans : ((lexer.eval calls).run (envOf text) ((envOf text).stateAt .start)).Spans _ _ :=
    spans_lexer input ((envOf text).stateAt .start)
  rw [read.run] at spans
  obtain ⟨row, past⟩ := spans
  have ends : t.offset = size text.toList := read.ends.trans (stop_envOf text)
  refine ⟨Lexeme.cover_of_row row (Window.rest?_zero _) past, ?_, fun l member => ?_⟩
  · rw [← ends]
    refine Lexeme.apart_of_row (fun i j blank => blank) (row.mono (fun i j blank => blank.le) ?_)
    rintro lo l _ ⟨index, -, -, rfl, -⟩
    exact ⟨index, rfl⟩
  · obtain ⟨lo, hi, rfl, length, -, -, rest, here⟩ := row.exists_item l member
    rw [length]
    exact Window.slice?_of_rest? here

/-- Whatever the delimiter and the scanners of a lexer are, its tokens do not overlap and have what
the delimiter takes between them; those of the calculator show their text and leave only blanks
out. -/
theorem lexing_loses_nothing :
    (∀ (text : String) (ls : List Lexeme), tokens text = .ok ls →
      Lexeme.Apart 0 ls (size text.toList) ∧
      (∀ l ∈ ls, Text.slice? text.toList l.index (l.index + l.length) =
        some l.token.render.toList) ∧
      (∀ (p r : List Char) (c : Char), text.toList = p ++ c :: r →
        (∀ l ∈ ls, ¬ (l.index ≤ size p ∧ size p < l.index + l.length)) →
        Text.isBlank c = true) ∧
      Lexeme.Cover 0 ls text.toList) ∧
    ∀ {β : Type} (rules : Rules β) (depth : Nat) (delimiter : Scanner β) (lexer : Lexer β)
      (env : Env) (n : Nat) (s t : State β) (ls : List Lexeme),
      (∀ name p, rules.find? name = some p → p.Discreet) → delimiter.Discreet → lexer.MadeOfLex →
      (Lexer.lexemes delimiter lexer).eval (rules.calls depth) env n s = ⟨.ok ls, t⟩ →
      Row (Lexer.Gap (rules.calls depth) env delimiter) Lexeme.Stands s.offset ls t.offset ∧
      Lexeme.Apart s.offset ls t.offset := by
  refine ⟨fun text ls lexed => ?_, ?_⟩
  · obtain ⟨cover, apart, slices⟩ := covered_of_tokens lexed
    refine ⟨apart, slices, fun p r c split outside => ?_, cover⟩
    exact cover.blank split fun l member => by simpa only [Nat.zero_add] using outside l member
  · intro β rules depth delimiter lexer env n s t ls discreet quiet made ran
    exact Lexer.lexemes_row discreet quiet made ran

theorem sum_and_words_are_covered :
    let ls : List Lexeme := [⟨1, 1, .word .decimal "1"⟩, ⟨3, 1, .reserved "+"⟩]
    let delimiter : Scanner Unit := Scanner.blanks
    let lexer : Lexer Unit := Parser.plus [.lex (Scanner.string "ab") (TokenReader.word .word)]
    let words : List Lexeme := [⟨0, 2, .word .word "ab"⟩, ⟨4, 2, .word .word "ab"⟩]
    let calls : Calls Unit := Rules.calls [] 0
    let env : Env := Env.ofText "ab  ab".toList "lex" (PositionMap.ofSource "ab  ab".toList)
    tokens " 1 + " = .ok ls ∧ Lexeme.Cover 0 ls " 1 + ".toList ∧
      ∃ t, (Lexer.lexemes delimiter lexer).eval calls env 1 (env.stateAt .start) =
          ⟨.ok words, t⟩ ∧
        Row (Lexer.Gap calls env delimiter) Lexeme.Stands 0 words t.offset := by
  intro ls delimiter lexer words calls env
  have read : tokens " 1 + " = .ok ls := by
    apply tokens_of_toOption
    rw [tokens, Calculator.lexer, vocabulary_eq]
    decide +kernel
  have pattern (p : Pattern) (l : String) : (Parser.pattern p l : Scanner Unit).Discreet :=
    .other (by rintro key ⟨⟩) fun q part => part.elim
  have made : lexer.MadeOfLex := by
    refine Lexer.madeOfLex_plus fun p member => ?_
    obtain rfl := List.mem_singleton.1 member
    exact .lex _ (pattern _ _)
  have told : ((Lexer.lexemes delimiter lexer).eval calls env 1
      (env.stateAt .start)).reply.toOption = some words := by decide +kernel
  have cover := (lexing_loses_nothing.1 _ ls read).2.2.2
  refine ⟨read, cover, ?_⟩
  rcases ran : (Lexer.lexemes delimiter lexer).eval calls env 1 (env.stateAt .start) with ⟨e | v, t⟩
  · rw [ran] at told
    cases told
  · rw [ran] at told
    obtain rfl := Option.some.inj told
    exact ⟨t, rfl, (lexing_loses_nothing.2 [] 0 delimiter lexer env 1 _ t _ (by rintro _ _ ⟨⟩)
      (pattern _ _) made ran).1⟩

end Calculator

end Descent
