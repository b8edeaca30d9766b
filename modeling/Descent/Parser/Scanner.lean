import Descent.Parser.Repetition
import Descent.Pattern.Lexical

set_option autoImplicit false

namespace Descent

abbrev Scanner (β : Type) := Parser β .unit

namespace Scanner

variable {β : Type}

open Descent.Parser (sequence seqRight seqLeft plus rename skipMany between notWith zero)

def spell (c : Char) : String :=
  if c = ' ' then "SPACE"
  else if c = '\t' then "HTAB"
  else if c = '\r' then "CR"
  else if c = '\n' then "LF"
  else c.toString

def spellAll (cs : List Char) : String := "[" ++ String.intercalate "," (cs.map spell) ++ "]"

def anyChar : Scanner β := .char CharClass.always fun _ => ()

def char (c : Char) : Scanner β := .pattern (.char c) (spell c)

def inClass (k : CharClass) : Scanner β := .pattern (.inClass k) k.label

def notChar (c : Char) : Scanner β := .pattern (Pattern.notChar c) ("^" ++ spell c)

def oneOf : List Char → Scanner β
  | [] => zero
  | [c] => char c
  | cs => .pattern (Pattern.oneOf cs) (spellAll cs)

def noneOf : List Char → Scanner β
  | [] => anyChar
  | [c] => notChar c
  | cs => .pattern (Pattern.noneOf cs) ("^" ++ spellAll cs)

def manyOf (k : CharClass) : Scanner β := .pattern (Pattern.manyOf k) "many"

def manyMatches (p : Pattern) : Scanner β := .pattern (.many 0 p) "many"

def string (s : String) : Scanner β := .pattern (Pattern.string s) s

def stringNoCase (s : String) : Scanner β := .pattern (Pattern.stringNoCase s) s

def blanks : Scanner β := .pattern (Pattern.atLeastOf 1 CharClass.blank) "whitespace"

def lineComment (opening : String) : Scanner β := .pattern (Pattern.lineComment opening) opening

def javaLineComment : Scanner β := lineComment "//"

def sqlLineComment : Scanner β := lineComment "--"

def haskellLineComment : Scanner β := lineComment "--"

def blockComment (opening closing : String) : Scanner β :=
  rename "block comment"
    (seqRight
      (.pattern
        (Pattern.andThen (Pattern.string opening) (.many 0 (Pattern.notString closing))) opening)
      (string closing))

def blockCommentOf (opening closing : String) (body : Pattern) : Scanner β :=
  seqRight
    (.pattern
      (Pattern.andThen (Pattern.string opening)
        (.many 0 (Pattern.andThen (.not (Pattern.string closing)) body)))
      opening)
    (string closing)

def blockCommentBy (opening closing body : Scanner β) : Scanner β :=
  sequence () [opening, skipMany (seqRight (Parser.not closing) body), closing]

def notPair (c d : Char) : Pattern :=
  Pattern.sequence [.peek (.atLeast 2), .not (.text [c, d]), .atLeast 1]

def javaBlockComment : Scanner β :=
  rename "java block comment"
    (sequence ()
      [string "/*", .pattern (.many 0 (notPair '*' '/')) "commented block", string "*/"])

def haskellBlockComment : Scanner β :=
  rename "haskell block comment"
    (sequence ()
      [string "\x7b-", .pattern (.many 0 (notPair '-' '\x7d')) "commented block", string "-\x7d"])

def nestedCommentBy (opening closing body : Scanner β) : Scanner β :=
  rename "nestable block comment" (.nested opening closing body)

def nestedComment (opening closing : String) : Scanner β :=
  nestedCommentBy (string opening) (string closing) anyChar

def sqlString : Scanner β :=
  rename "sql string"
    (between (char '\x27') (char '\x27')
      (.pattern (.many 0 (Pattern.orElse (.text ['\x27', '\x27']) (Pattern.notChar '\x27')))
        "quoted string"))

def quotedString : Scanner β :=
  rename "quoted string"
    (between (char '\x22') (char '\x22')
      (.pattern (.many 0 (Pattern.orElse .escaped (Pattern.noneOf ['\x22', '\\'])))
        "quoted string"))

def quotedChar : Scanner β :=
  rename "quoted char"
    (between (char '\x27') (char '\x27')
      (.pattern (Pattern.orElse .escaped (Pattern.noneOf ['\x27', '\\'])) "quoted char"))

def quotedBy (opening closing : Char) : Scanner β :=
  rename "quoted"
    (seqRight
      (.pattern (Pattern.andThen (.char opening) (Pattern.manyOf (CharClass.except closing)))
        opening.toString)
      (char closing))

def quotedByScanners (opening closing body : Scanner β) : Scanner β :=
  rename "quoted" (sequence () [opening, skipMany body, closing])

def delimiter (name : String) (forms : List (Scanner β)) : Scanner β :=
  rename name (skipMany (plus forms))

def javaDelimiter : Scanner β :=
  delimiter "java delimiter" [blanks, javaLineComment, javaBlockComment]

def haskellDelimiter : Scanner β :=
  delimiter "haskell delimiter" [blanks, haskellBlockComment, haskellLineComment]

def sqlDelimiter : Scanner β :=
  delimiter "sql delimiter" [blanks, sqlLineComment, javaBlockComment]

def stdDelimiter (line opening closing : String) : Scanner β :=
  delimiter "delimiter" [blanks, lineComment line, blockComment opening closing]

def delimitedWith (label : String) (p : Scanner β) : Scanner β :=
  rename "delimited" (seqLeft p (notWith label (inClass CharClass.wordPart)))

def delimited (p : Scanner β) : Scanner β := delimitedWith "alphanumeric" p

end Scanner

end Descent
