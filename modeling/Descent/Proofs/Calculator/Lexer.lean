import Descent.Calculator.Grammar
import Descent.Proofs.Parser.Orderly
import Descent.Proofs.Token.Vocabulary

set_option autoImplicit false

namespace Descent

variable {β : Type} {calls : Calls β} {env : Env} {w : Window} {first : Nat}

open Descent.Action Descent.Parser

theorem Operators.orderly_nameLexer (input : env.input = .chars w) (name : String) :
    (nameLexer name : Lexer β).Orderly calls env first 0 (Ty.InPlace env first .lexeme)
      fun _ => False := by
  have scanner : ∀ s : Scanner β, (∃ p l, s = .pattern p l) →
      ((Parser.lex s (TokenReader.value (.reserved name))).eval calls).Orderly env first 0
        (Ty.InPlace env first .lexeme) fun _ => False := by
    rintro s ⟨p, l, rfl⟩
    exact orderly_lex (accepting_value _) (orderly_pattern p l input) input
  refine .of_eval (scanner _ ?_) rfl
  split
  · exact ⟨_, _, rfl⟩
  · exact ⟨_, _, rfl⟩

theorem Vocabulary.orderly_lexer (input : env.input = .chars w) {names : List String}
    (name : String) (member : name ∈ names) (some : name ≠ "") :
    (ofOperators names : Vocabulary β).lexer.Orderly calls env first 0
      (Ty.InPlace env first .lexeme) fun _ => False := by
  apply orderly_plus
  · exact List.ne_nil_of_mem (List.mem_map.2 ⟨name, Operators.mem_ofList.2 ⟨member, some⟩, rfl⟩)
  · intro p isLexer
    obtain ⟨n, -, rfl⟩ := List.mem_map.1 isLexer
    exact Operators.orderly_nameLexer input n

theorem Scanner.orderly_delimited (input : env.input = .chars w) (p : Pattern) (l : String) :
    ((delimited (.pattern p l) : Scanner β).eval calls).Calm env first 0 := by
  have follows : ((notWith "alphanumeric" (inClass CharClass.wordPart) : Parser β .unit).eval
      calls).Calm env first 0 :=
    orderly_ifElse (orderly_peek (orderly_pattern _ _ input))
      (fun _ => orderly_reject (by rintro ⟨⟩)) (orderly_ret trivial)
  exact orderly_named _ (orderly_seqLeft (orderly_pattern p l input) follows)

theorem Lexer.orderly_delimited (input : env.input = .chars w) (p : Pattern) (l name : String)
    (kind : WordKind) :
    (rename name (delimited p l (TokenReader.word kind)) : Lexer β).Orderly calls env first 0
      (Ty.InPlace env first .lexeme) fun _ => False :=
  .of_eval (orderly_named name
    (orderly_lex (accepting_word kind) (Scanner.orderly_delimited input p l) input)) rfl

namespace Calculator

variable {calls : Calls Float}

theorem orderly_lexer (input : env.input = .chars w) :
    (lexer.eval calls).Orderly env first 0 (Few (env.stop + 3) (Ty.InPlace env first .lexeme))
      fun _ => False := by
  have blank : (blanks.eval calls).Calm env first 0 :=
    orderly_loop (orderly_pattern _ _ input) (fun _ _ _ => trivial)
      fun _ _ (raised : False) => raised.elim
  have token : (plus [vocabulary.lexer, Lexer.decimal, Lexer.word]).Orderly calls env first 0
      (Ty.InPlace env first .lexeme) fun _ => False := by
    apply orderly_plus (List.cons_ne_nil _ _)
    simp only [List.forall_mem_cons]
    refine ⟨?_, ?_, ?_, List.forall_mem_nil _⟩
    · exact Vocabulary.orderly_lexer input "!" List.mem_cons_self (by decide)
    · exact Lexer.orderly_delimited input _ _ _ _
    · exact Lexer.orderly_delimited input _ _ _ _
  have tokens := (orderly_sepEndBy blank token).eval
  exact orderly_seqLeft (orderly_seqRight (orderly_optional blank) tokens)
    (orderly_eof "EOF")

theorem lexer_lexesInPlace : (lexer.eval calls).LexesInPlace := by
  intro env w s t lexemes input placed ran
  obtain ⟨r, u, ran', -, ended⟩ := (orderly_lexer input).run placed (Nat.le_refl _)
  rw [ran] at ran'
  cases ran'
  exact ended.value.1.2

end Calculator

end Descent
