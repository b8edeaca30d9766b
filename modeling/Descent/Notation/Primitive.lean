import Descent.Notation.Build
import Descent.Token.Lexer
import Descent.Token.Terminal

set_option autoImplicit false

namespace Descent.Notation

def readPattern (d : Datum) : Build Pattern := liftM d.pattern

def resultType : String → Ty
  | "L" => .list .base
  | "O" => .option .base
  | "U" => .unit
  | "N" => .nat
  | "T" => .lexeme
  | "K" => .list .lexeme
  | _ => .base

def rangeValue (l : Lexeme) (v : Value) : Value := .list [.int l.index, .int l.length, v]

def termOf? (s : String) : Option Built :=
  match s with
  | "word" => some <| .base (Terminal.word (a := .base) fun l t => rangeValue l (.text t))
  | "integer" => some <| .base (Terminal.integer (a := .base) fun l t => rangeValue l (.text t))
  | "decimal" => some <| .base (Terminal.decimal (a := .base) fun l t => rangeValue l (.text t))
  | "char" => some <| .base (Terminal.char (a := .base) fun l c => rangeValue l (.text c.toString))
  | "string" => some <| .base (Terminal.string (a := .base) fun l t => rangeValue l (.text t))
  | "long" =>
    some <| .base (Terminal.long (a := .base) fun l n => rangeValue l (.text (toString n)))
  | "quoted" =>
    some <| .base (Terminal.quoted (a := .base) fun l opening body closing =>
      .list [rangeValue l (.text opening), .text body, .text closing])
  | _ => none

def primitive? (head : String) (args : List Datum) : Build (Option Built) := do
  match head, args with
  | "ret", [v] => return some <| .base (.ret (a := .base) v.value)
  | "one", [t] =>
    let t := resultType t.str
    return some ⟨t, .ret (Datum.null.result t)⟩
  | "zero", [] => return some <| .base Parser.zero
  | "fail", [m] => return some <| .base (Parser.failWith m.str)
  | "expect", [l] => return some <| .base (Parser.expect l.str)
  | "unexpected", [l] => return some <| .base (Parser.unexpected l.str)
  | "raise", [k] =>
    let k ← Build.namedKey k.str
    return some <| .base (.raise k)
  | "raise_fresh", [s] =>
    let k ← Build.freshKey (.text s.str)
    return some <| .base (.raise k)
  | "raise_static", [] =>
    let k ← Build.freshKey (.label "static payload")
    return some <| .base (.raise k)
  | "raise_num", [n] =>
    let k ← Build.freshKey (.number n.nat)
    return some <| .base (.raise k)
  | "abort", [m] => return some <| .base (.abort m.str)
  | "fault", [m] => return some <| .base (.fault m.str)
  | "get_index", [] => return some <| .nat .getIndex
  | "eof", [l] => return some <| .unit (.eof l.str)
  | "any_token", [l] => return some <| .lexeme (Parser.anyToken l.str)
  | "is_token", [t] =>
    let t := t.token
    return some <| .lexeme (Parser.tokenWhere (·.token = t))
  | "ref", [n] => return some <| .base (.rule n.str)
  | "unset", [] => return some <| .base (.fault Rules.missingMessage)
  | "one_char", [k] =>
    return some <| .base (.char (a := .base) k.charClass fun c => .text c.toString)
  | _, _ => return none

def lexerNode? (head : String) (args : List Datum) : Build (Option Built) := do
  match head, args with
  | "lex_char_literal", [] => return some <| .lexeme Lexer.charLiteral
  | "lex_simple_string_literal", [] => return some <| .lexeme Lexer.stringLiteral
  | "lex_sql_string_literal", [] => return some <| .lexeme Lexer.sqlStringLiteral
  | "lex_quoted_string", [a, b] => return some <| .lexeme (Lexer.quotedString a.char b.char)
  | "lex_decimal", [] => return some <| .lexeme Lexer.decimal
  | "lex_integer", [] => return some <| .lexeme Lexer.integer
  | "lex_decimal_long", [] => return some <| .lexeme Lexer.decimalLong
  | "lex_oct_long", [] => return some <| .lexeme Lexer.octLong
  | "lex_hex_long", [] => return some <| .lexeme Lexer.hexLong
  | "lex_long", [] => return some <| .lexeme Lexer.long
  | "lex_word", [] => return some <| .lexeme Lexer.word
  | "terms_lexer", [] => return some <| .lexeme (← Build.vocabulary).lexer
  | "terms_token", [n] =>
    let p ← Build.ofVocabulary ((← Build.vocabulary).tokenParser n.str)
    return some <| .lexeme p
  | "terms_parser", [ns] =>
    let p ← Build.ofVocabulary ((← Build.vocabulary).parser ns.strs)
    return some <| .lexeme p
  | "terms_parser_labelled", [ns, l] =>
    let p ← Build.ofVocabulary ((← Build.vocabulary).parserLabelled ns.strs l.str)
    return some <| .lexeme p
  | "on", [k] => return termOf? k.str
  | "on_typed", [k] =>
    return some <| .base (Terminal.ofKind (a := .base) (Datum.wordKind k.str) fun l t =>
      rangeValue l (.text t))
  | _, _ => return none

def scannerNode? (head : String) (args : List Datum) : Build (Option Built) := do
  match head, args with
  | "pat", [p, l] =>
    let p ← readPattern p
    return some <| .unit (.pattern p l.str)
  | "any_char", [] => return some <| .unit Scanner.anyChar
  | "is_char", [c] => return some <| .unit (Scanner.char c.char)
  | "where", [c] => return some <| .unit (Scanner.inClass c.charClass)
  | "not_char", [c] => return some <| .unit (Scanner.notChar c.char)
  | "among", [s] => return some <| .unit (Scanner.oneOf s.chars)
  | "not_among", [s] => return some <| .unit (Scanner.noneOf s.chars)
  | "many_chars", [c] => return some <| .unit (Scanner.manyOf c.charClass)
  | "many_pattern", [p] =>
    let p ← readPattern p
    return some <| .unit (Scanner.manyMatches p)
  | "is_string", [s] => return some <| .unit (Scanner.string s.str)
  | "is_string_ci", [s] => return some <| .unit (Scanner.stringNoCase s.str)
  | "whitespaces", [] => return some <| .unit Scanner.blanks
  | "line_comment", [s] => return some <| .unit (Scanner.lineComment s.str)
  | "java_line_comment", [] => return some <| .unit Scanner.javaLineComment
  | "sql_line_comment", [] => return some <| .unit Scanner.sqlLineComment
  | "haskell_line_comment", [] => return some <| .unit Scanner.haskellLineComment
  | "block_comment", [a, b] => return some <| .unit (Scanner.blockComment a.str b.str)
  | "block_comment_with", [a, b, p] =>
    let p ← readPattern p
    return some <| .unit (Scanner.blockCommentOf a.str b.str p)
  | "java_block_comment", [] => return some <| .unit Scanner.javaBlockComment
  | "haskell_block_comment", [] => return some <| .unit Scanner.haskellBlockComment
  | "nestable", [a, b] => return some <| .unit (Scanner.nestedComment a.str b.str)
  | _, _ => return none

def literalScanner? (head : String) (args : List Datum) : Build (Option Built) := do
  match head, args with
  | "sql_string", [] => return some <| .unit Scanner.sqlString
  | "quoted_string", [] => return some <| .unit Scanner.quotedString
  | "quoted_char", [] => return some <| .unit Scanner.quotedChar
  | "quoted_by", [a, b] => return some <| .unit (Scanner.quotedBy a.char b.char)
  | "java_delimiter", [] => return some <| .unit Scanner.javaDelimiter
  | "haskell_delimiter", [] => return some <| .unit Scanner.haskellDelimiter
  | "sql_delimiter", [] => return some <| .unit Scanner.sqlDelimiter
  | "std_delimiter", [l, a, b] =>
    return some <| .unit (Scanner.stdDelimiter l.str a.str b.str)
  | _, _ => return none

end Descent.Notation
