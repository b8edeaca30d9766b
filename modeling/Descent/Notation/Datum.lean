import Descent.CharClass
import Descent.Token.Reader
import Descent.Value

set_option autoImplicit false

namespace Descent.Notation

inductive Datum where
  | null
  | bool (b : Bool)
  | int (n : Int)
  | text (s : String)
  | list (ds : List Datum)
  | dict (es : List (String × Datum))
  deriving Inhabited

namespace Datum

def get? : Datum → String → Option Datum
  | dict es, name => es.lookup name
  | _, _ => none

def field (d : Datum) (name : String) : Datum := (d.get? name).getD null

def elems : Datum → List Datum
  | list ds => ds
  | _ => []

def entries : Datum → List (String × Datum)
  | dict es => es
  | _ => []

def str : Datum → String
  | text s => s
  | _ => ""

def str? : Datum → Option String
  | text s => some s
  | _ => none

def asInt : Datum → Int
  | int n => n
  | _ => 0

def nat (d : Datum) : Nat := d.asInt.toNat

def nat? : Datum → Option Nat
  | int n => some n.toNat
  | _ => none

def chars (d : Datum) : List Char := d.str.toList

def char (d : Datum) : Char := d.chars.headD ' '

def strs (d : Datum) : List String := d.elems.map str

mutual

def depth : Datum → Nat
  | list ds => depthAll ds + 1
  | dict es => depthEntries es + 1
  | _ => 1

def depthAll : List Datum → Nat
  | [] => 0
  | d :: ds => max (depth d) (depthAll ds)

def depthEntries : List (String × Datum) → Nat
  | [] => 0
  | (_, d) :: ds => max (depth d) (depthEntries ds)

end

def wordKind : String → WordKind
  | "integer" => .integer
  | "decimal" => .decimal
  | "word" => .word
  | _ => .reserved

def token (d : Datum) : Token :=
  match d.elems with
  | [text "char", c] => .char c.char
  | [text "long", n] => .long (n.str.toInt?.getD 0)
  | [text "str", s] => .string s.str
  | [text "quoted", a, b, c] => .quoted a.str b.str c.str
  | [text "eof"] => .eof
  | [text kind, s] => .word (wordKind kind) s.str
  | _ => .eof

def lexeme (d : Datum) : Lexeme :=
  match d.elems with
  | [i, n, t] => ⟨i.nat, n.nat, t.token⟩
  | _ => ⟨(d.field "i").nat, (d.field "n").nat, (d.field "t").token⟩

def valueTo : Nat → Datum → Value
  | _, null => .null
  | _, bool b => .bool b
  | _, int n => .int n
  | _, text s => .text s
  | 0, list _ => .null
  | n + 1, list ds => .list (ds.map (valueTo n))
  | 0, dict _ => .null
  | n + 1, dict es =>
    match es.lookup "some" with
    | some d => .some (valueTo n d)
    | none => .lexeme (dict es).lexeme

def value (d : Datum) : Value := d.valueTo d.depth

def result : (a : Ty) → Datum → a.Value Value
  | .base, d => d.value
  | .unit, _ => ()
  | .nat, d => d.nat
  | .text, d => d.str
  | .lexeme, d => d.value.lexeme?.getD ⟨0, 0, .eof⟩
  -- Among several tokens what is none is left out.
  | .list .lexeme, d => d.elems.filterMap fun e => e.value.lexeme?
  | .list a, d => d.elems.map (result a)
  | .option a, d =>
    match d with
    | null => none
    | d => some (result a ((d.get? "some").getD d))
  | .pair a b, d => (result a d, result b d)
  | .unary, _ => fun v => v
  | .binary, _ => fun v _ => v

def tokenStyle (d : Datum) : Token → String :=
  if d.str = "quoted" then fun t => "\x27" ++ t.render ++ "\x27" else Token.render

def tokenReader (d : Datum) : TokenReader :=
  match d.elems with
  | [text "word"] => .word .word
  | [text "reserved"] => .word .reserved
  | [text "integer"] => .word .integer
  | [text "decimal"] => .word .decimal
  | [text "typed", k] => .word (wordKind k.str)
  | [text "char"] => .char
  | [text "sql_string"] => .sqlString
  | [text "simple_string"] => .simpleString
  | [text "decimal_long"] => .decimalLong
  | [text "oct_long"] => .octLong
  | [text "hex_long"] => .hexLong
  | [text "quoted", a, b] => .quoted a.str b.str
  | [text "value", t] => .value t.token
  | _ => .string

def charClassTo : Nat → Datum → CharClass
  | 0, _ => .never
  | n + 1, d =>
    match d.elems with
    | [text "is_char", c] => .single c.char
    | [text "not_char", c] => .except c.char
    | [text "in_range", a, b] => .range a.char b.char
    | [text "not_in_range", a, b] => .outside a.char b.char
    | [text "digit"] => .digit
    | [text "among", cs] => .oneOf cs.chars
    | [text "not_among", cs] => .noneOf cs.chars
    | [text "hex_digit"] => .hexDigit
    | [text "uppercase"] => .uppercase
    | [text "lowercase"] => .lowercase
    | [text "whitespace"] => .blank
    | [text "alpha"] => .alpha
    | [text "alpha_"] => .wordStart
    | [text "letter"] => .letter
    | [text "alphanumeric"] => .wordPart
    | [text "always"] => .always
    | [text "not", c] => (charClassTo n c).compl
    | [text "and", c, e] => (charClassTo n c).inter (charClassTo n e)
    | [text "or", c, e] => (charClassTo n c).union (charClassTo n e)
    | [text "all_of", cs] => .interAll (cs.elems.map (charClassTo n))
    | [text "any_of", cs] => .unionAll (cs.elems.map (charClassTo n))
    | [text "relabel", c, l] => (charClassTo n c).relabel l.str
    | _ => .never

def charClass (d : Datum) : CharClass := d.charClassTo d.depth

end Datum

end Descent.Notation
