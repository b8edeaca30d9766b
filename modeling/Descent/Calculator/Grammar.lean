import Descent.Calculator.Function
import Descent.Decimal.Binary
import Descent.Decimal.Read
import Descent.Operator.Table
import Descent.Parser.Grammar
import Descent.Parser.Hook
import Descent.Token.Terminal
import Descent.Token.Vocabulary

set_option autoImplicit false

namespace Descent

structure Calculator where
  body : Parser Float .base

namespace Calculator

open Descent.Parser (both between map optional plus ret seqLeft seqRight)

def operators : List String :=
  ["!", "+", "-", "**", "*", "/", "%", "==", "!=", "<=", ">=", "<", ">", "&&", "||", "(", ")", ",",
   "#"]

def vocabulary : Vocabulary Float := Vocabulary.ofOperators operators

def blanks : Scanner Float := Parser.skipMany Scanner.blanks

def lexer : Parser Float (.list .lexeme) :=
  seqLeft (Lexer.lexemes blanks (plus [vocabulary.lexer, Lexer.decimal, Lexer.word])) (.eof "EOF")

def expressionRule : String := "expression"

def expression : Parser Float .base := .rule expressionRule

def truth (b : Bool) : Float := if b then 1.0 else 0.0

def infixOperators : List (OperatorKind × Int × String × (Float → Float → Float)) :=
  [(.leftAssoc, 10, "&&", fun x y => truth (x != 0.0 && y != 0.0)),
   (.leftAssoc, 10, "||", fun x y => truth (x != 0.0 || y != 0.0)),
   (.leftAssoc, 20, "==", fun x y => truth (x == y)),
   (.leftAssoc, 20, "!=", fun x y => truth (x != y)),
   (.leftAssoc, 20, "<=", fun x y => truth (decide (x ≤ y))),
   (.leftAssoc, 20, "<", fun x y => truth (decide (x < y))),
   (.leftAssoc, 20, ">=", fun x y => truth (decide (y ≤ x))),
   (.leftAssoc, 20, ">", fun x y => truth (decide (y < x))),
   (.leftAssoc, 40, "+", fun x y => x + y),
   (.leftAssoc, 40, "-", fun x y => x - y),
   (.leftAssoc, 50, "*", fun x y => x * y),
   (.leftAssoc, 50, "/", fun x y => x / y),
   (.leftAssoc, 50, "%", fun x y => ((Binary.ofFloat x).rem (Binary.ofFloat y)).toFloat),
   (.rightAssoc, 60, "**", Float.pow)]

def prefixOperators : List (Int × String × (Float → Float)) :=
  [(70, "+", fun x => x), (70, "-", fun x => -x), (70, "!", fun x => truth (x == 0.0))]

def operatorTable : Except VocabularyError (OperatorTable Float) := do
  let binary ← infixOperators.mapM fun (kind, precedence, name, f) => do
    let p ← vocabulary.tokenParser name
    let op : Parser Float .binary := seqRight p (ret (a := .binary) f)
    return match kind with
      | .rightAssoc => (⟨.rightAssoc, precedence, op⟩ : Operator Float)
      | .nonAssoc => ⟨.nonAssoc, precedence, op⟩
      | _ => ⟨.leftAssoc, precedence, op⟩
  let unary ← prefixOperators.mapM fun (precedence, name, f) => do
    let p ← vocabulary.tokenParser name
    return (⟨.before, precedence, seqRight p (ret (a := .unary) f)⟩ : Operator Float)
  return ⟨binary ++ unary⟩

def number (text : String) : Except UserError Float :=
  (Decimal.read text).mapError fun e => ⟨text ++ ": " ++ e.message, none⟩

def term (mode : AngleMode) : Except VocabularyError (Parser Float .base) := do
  let opening ← vocabulary.tokenParser "("
  let closing ← vocabulary.tokenParser ")"
  let comma ← vocabulary.parser [",", "#"]
  let args := between opening closing (Parser.sepEndBy comma expression)
  let name : Parser Float .text := .label "word" (Terminal.word (a := .text) fun _ name => name)
  let application : Parser Float (.pair .text (.list .base)) :=
    both (b := .option (.list .base)) (c := .pair .text (.list .base))
      (fun n vs => (n, vs.getD [])) name (optional args)
  let digits : Parser Float .text :=
    .label "number" (Terminal.decimal (a := .text) fun _ text => text)
  return plus
    [between opening closing expression,
     .tryMap (a := .pair .text (.list .base)) (b := .base) (fun (n, vs) => call mode n vs)
       application,
     .tryMap (a := .text) (b := .base) number digits]

def make (mode : AngleMode) : Except VocabularyError Calculator := do
  let term ← term mode
  let table ← operatorTable
  return ⟨table.expression term⟩

def grammar (c : Calculator) : Grammar Float .base where
  rules := [(expressionRule, c.body)]
  start := .parseTokens lexer
    (Parser.printError "calculator" 1 (seqLeft c.body (.eof "EOF")))
    "EOF" Token.render "calculator"

def run (c : Calculator) (text : String) : Parse Float .base :=
  c.grammar.parseText text.toList "calculate"

def tokens (text : String) : Except Exception (List Lexeme) :=
  (Grammar.parseText { start := lexer } text.toList "lex").result

end Calculator

end Descent
