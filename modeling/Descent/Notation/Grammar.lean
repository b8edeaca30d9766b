import Descent.Notation.Composition
import Descent.Notation.Control
import Descent.Notation.Operators
import Descent.Notation.Primitive
import Descent.Notation.Repetition
import Descent.Parser.Grammar

set_option autoImplicit false

namespace Descent.Notation

def nested? (sub : Sub) (head : String) (args : List Datum) : Build (Option Built) := do
  match head, args with
  | "lex", [g, z] => return some <| .lexeme (.lex (← sub g).parser z.tokenReader)
  | "lexeme", [d, g] =>
    let d ← sub.unit d
    let p ← sub.typed .lexeme g
    return some ⟨.list .lexeme, Lexer.lexemes d p⟩
  | "parse_tokens", [l, g, title, render, origin] =>
    let l ← sub.typed (.list .lexeme) l
    let x ← sub g
    return some ⟨x.ty, .parseTokens l x.parser title.str render.tokenStyle origin.str⟩
  | "scan_chars", [o, i, origin] =>
    let o ← sub.base o
    let x ← sub i
    return some ⟨x.ty, .scanChars o x.parser origin.str⟩
  | "block_comment_by", [o, c, b] =>
    return some <| .unit (Scanner.blockCommentBy (← sub.unit o) (← sub.unit c) (← sub.unit b))
  | "nestable_by", [o, c, b] =>
    return some <| .unit (Scanner.nestedCommentBy (← sub.unit o) (← sub.unit c) (← sub.unit b))
  | "quoted_by_with", [o, c, b] =>
    return some <| .unit (Scanner.quotedByScanners (← sub.unit o) (← sub.unit c) (← sub.unit b))
  | "delimited", [g] => return some <| .unit (Scanner.delimited (← sub.unit g))
  | "delimited_with", [l, g] => return some <| .unit (Scanner.delimitedWith l.str (← sub.unit g))
  | _, _ => return none

def constructs : List (Sub → String → List Datum → Build (Option Built)) :=
  [fun _ => primitive?, fun _ => lexerNode?, fun _ => scannerNode?, fun _ => literalScanner?,
    composition?, control?, hook?, repetition?, fold?, expression?, nested?]

def firstOf (sub : Sub) (head : String) (args : List Datum) :
    List (Sub → String → List Datum → Build (Option Built)) → Build Built
  | [] => Build.malformed head
  | c :: cs => do
    match ← c sub head args with
    | some x => return x
    | none => firstOf sub head args cs

def builtTo : Nat → Sub
  | 0, _ => Build.malformed "parser"
  | n + 1, d =>
    match d.elems with
    | .text head :: args => firstOf (builtTo n) head args constructs
    | _ => Build.malformed "parser"

end Descent.Notation

namespace Descent.Notation.Datum

def built (d : Datum) : Build Built := builtTo d.depth d

def rules (d : Datum) : Build (Rules Value) :=
  d.entries.mapM fun (name, g) => return (name, (← g.built).toBase)

def caseSensitivity (d : Datum) : CaseSensitivity :=
  if d.str = "insensitive" then .insensitive else .sensitive

def vocabulary (d : Datum) : Except VocabularyError (Vocabulary Value) :=
  match d.get? "keywords" with
  | some (list ks) =>
    Vocabulary.ofList (d.field "operators").strs (ks.map str) (d.field "case").caseSensitivity
  | _ => .ok (Vocabulary.ofOperators (d.field "operators").strs)

end Descent.Notation.Datum
