import Descent.Parser.State

set_option autoImplicit false

namespace Descent

inductive Value where
  | null
  | bool (b : Bool)
  | int (n : Int)
  | text (s : String)
  | list (vs : List Value)
  | some (v : Value)
  | lexeme (l : Lexeme)
  deriving Inhabited

namespace Value

mutual

def same : Value → Value → Bool
  | null, null => true
  | bool a, bool b => a == b
  | int a, int b => a == b
  | text a, text b => a == b
  | list as, list bs => sameAll as bs
  | some a, some b => same a b
  | lexeme a, lexeme b => a == b
  | _, _ => false

def sameAll : List Value → List Value → Bool
  | [], [] => true
  | a :: as, b :: bs => same a b && sameAll as bs
  | _, _ => false

end

def lexeme? : Value → Option Lexeme
  | lexeme l => Option.some l
  | _ => none

def size : Value → Int
  | int n => n
  | text s => s.length
  | list vs => vs.length
  | some _ => 1
  | _ => 0

mutual

def flat : Value → String
  | null => ""
  | bool b => if b then "true" else "false"
  | int n => toString n
  | text s => s
  | list vs => flatAll vs
  | some v => flat v
  | lexeme l => l.token.render

def flatAll : List Value → String
  | [] => ""
  | v :: vs => flat v ++ flatAll vs

end

def ofResult : (a : Ty) → a.Value Value → Value
  | .base, v => v
  | .unit, _ => null
  | .nat, n => int n
  | .text, s => text s
  | .lexeme, l => lexeme l
  | .list a, vs => list (vs.map (ofResult a))
  | .option _, Option.none => null
  | .option a, Option.some v => some (ofResult a v)
  | .pair a b, (v, w) => list [ofResult a v, ofResult b w]
  | .unary, _ => null
  | .binary, _ => null

def quoteText (s : String) : String :=
  let escape (c : Char) : String :=
    if c = '\x22' then "\\\x22"
    else if c = '\\' then "\\\\"
    else if c = '\x08' then "\\b"
    else if c = '\t' then "\\t"
    else if c = '\n' then "\\n"
    else if c = '\x0c' then "\\f"
    else if c = '\r' then "\\r"
    else if c.toNat < 0x20 then
      let ds := Nat.toDigits 16 c.toNat
      "\\u" ++ String.ofList (List.replicate (4 - ds.length) '0' ++ ds)
    else c.toString
  "\x22" ++ String.join (s.toList.map escape) ++ "\x22"

def brackets (parts : List String) : String := "[" ++ String.intercalate "," parts ++ "]"

def renderToken : Token → String
  | .word kind s =>
    let name := match kind with
      | .integer => "integer"
      | .decimal => "decimal"
      | .word => "word"
      | .reserved => "reserved"
    brackets [quoteText name, quoteText s]
  | .char c => brackets [quoteText "char", quoteText c.toString]
  | .long n => brackets [quoteText "long", quoteText (toString n)]
  | .string s => brackets [quoteText "str", quoteText s]
  | .quoted opening body closing =>
    brackets [quoteText "quoted", quoteText opening, quoteText body, quoteText closing]
  | .eof => brackets [quoteText "eof"]

mutual

def render : Value → String
  | null => "null"
  | bool b => if b then "true" else "false"
  | int n => toString n
  | text s => quoteText s
  | list vs => brackets (renderAll vs)
  | some v => "\x7b\x22some\x22:" ++ render v ++ "\x7d"
  | lexeme l =>
    "\x7b\x22i\x22:" ++ toString l.index ++ ",\x22n\x22:" ++ toString l.length ++ ",\x22t\x22:" ++
      renderToken l.token ++ "\x7d"

def renderAll : List Value → List String
  | [] => []
  | v :: vs => render v :: renderAll vs

end

end Value

end Descent
