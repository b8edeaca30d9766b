import Descent.Parser.Scanner

set_option autoImplicit false

namespace Descent

abbrev Lexer (β : Type) := Parser β .lexeme

namespace Lexer

variable {β : Type}

open Descent.Parser (rename)

def lexemes (delimiter : Scanner β) (p : Lexer β) : Parser β (.list .lexeme) :=
  Parser.seqRight (Parser.optional delimiter) (Parser.sepEndBy delimiter p)

def delimited (p : Pattern) (label : String) (reader : TokenReader) : Lexer β :=
  .lex (Scanner.delimited (.pattern p label)) reader

def charLiteral : Lexer β := rename "char literal" (.lex Scanner.quotedChar TokenReader.char)

def stringLiteral : Lexer β :=
  rename "double quoted string literal" (.lex Scanner.quotedString TokenReader.simpleString)

def sqlStringLiteral : Lexer β :=
  rename "sql style string literal" (.lex Scanner.sqlString TokenReader.sqlString)

def quotedString (opening closing : Char) : Lexer β :=
  rename "quoted string literal"
    (.lex (Scanner.quotedBy opening closing)
      (TokenReader.quoted opening.toString closing.toString))

def decimal : Lexer β :=
  rename "decimal literal" (delimited Pattern.decimal "decimal number" (TokenReader.word .decimal))

def integer : Lexer β :=
  rename "integer literal" (delimited Pattern.integer "integer" (TokenReader.word .integer))

def decimalLong : Lexer β :=
  rename "decimal integer literal"
    (delimited Pattern.decInteger "decInteger" TokenReader.decimalLong)

def octLong : Lexer β :=
  rename "oct integer literal" (delimited Pattern.octInteger "octInteger" TokenReader.octLong)

def hexLong : Lexer β :=
  rename "hex integer literal" (delimited Pattern.hexInteger "hexInteger" TokenReader.hexLong)

def long : Lexer β :=
  rename "long integer literal" (Parser.plus [hexLong, decimalLong, octLong])

def word : Lexer β := rename "word" (delimited Pattern.word "word" (TokenReader.word .word))

end Lexer

end Descent
