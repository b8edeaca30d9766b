import Descent.Notation.Datum
import Descent.Pattern.Lexical
import Descent.Regex.Search
import Descent.Token.Vocabulary

set_option autoImplicit false

namespace Descent.Notation

inductive NotationError where
  | bounds (e : BoundsError)
  | vocabulary (e : VocabularyError)
  | regex
  | malformed (what : String)
  deriving Repr

def plainPattern? : String → Option Pattern
  | "word" => some .word
  | "integer" => some .integer
  | "oct_integer" => some .octInteger
  | "dec_integer" => some .decInteger
  | "hex_integer" => some .hexInteger
  | "decimal_l" => some .decimalLeft
  | "decimal_r" => some .decimalRight
  | "decimal" => some .decimal
  | "exponential" => some .exponent
  | "regular_expression" => some .slashed
  | "regular_expression_modifiers" => some .slashedFlags
  | "eof" => some .eof
  | "escaped" => some .escaped
  | "never" => some .never
  | "always" => some .always
  | _ => none

def atomicPattern? (head : String) (args : List Datum) : Except NotationError (Option Pattern) :=
  match head, args with
  | "at_least", [n] => .ok (some (.atLeast n.nat))
  | "exact", [n] => .ok (some (.exactly n.nat))
  | "char", [c] => .ok (some (.char c.char))
  | "where", [k] => .ok (some (.inClass k.charClass))
  | "not_char", [c] => .ok (some (Pattern.notChar c.char))
  | "in_range", [a, b] => .ok (some (Pattern.range a.char b.char))
  | "not_in_range", [a, b] => .ok (some (Pattern.outside a.char b.char))
  | "among", [s] => .ok (some (Pattern.oneOf s.chars))
  | "not_among", [s] => .ok (some (Pattern.noneOf s.chars))
  | "line_comment", [s] => .ok (some (Pattern.lineComment s.str))
  | "string", [s] => .ok (some (Pattern.string s.str))
  | "string_ci", [s] => .ok (some (Pattern.stringNoCase s.str))
  | "not_string", [s] => .ok (some (Pattern.notString s.str))
  | "not_string_ci", [s] => .ok (some (Pattern.notStringNoCase s.str))
  | "repeat_of", [n, k] => .ok (some (Pattern.timesOf n.nat k.charClass))
  | "many_of", [k] => .ok (some (Pattern.manyOf k.charClass))
  | "many_min_of", [n, k] => .ok (some (Pattern.atLeastOf n.nat k.charClass))
  | "some_of", [n, k] => .ok (some (Pattern.upToOf n.nat k.charClass))
  | "some_range_of", [m, n, k] =>
    match Pattern.betweenOf m.nat n.nat k.charClass with
    | .ok p => .ok (some p)
    | .error e => .error (.bounds e)
  | "regex", [s] =>
    match Regex.Automaton.ofString? s.str with
    | some m => .ok (some (.regex m.search))
    | none => .error .regex
  | _, _ => .ok none

def compositePattern (sub : Datum → Except NotationError Pattern) (head : String)
    (args : List Datum) : Except NotationError Pattern := do
  match head, args with
  | "any", [ps] => return Pattern.anyOf (← ps.elems.mapM sub)
  | "sequence", [ps] => return Pattern.sequence (← ps.elems.mapM sub)
  | "all", [ps] => return .all (← ps.elems.mapM sub)
  | "longest", [ps] => return .longest (← ps.elems.mapM sub)
  | "shortest", [ps] => return .shortest (← ps.elems.mapM sub)
  | "seq", [p, q] => return Pattern.andThen (← sub p) (← sub q)
  | "or", [p, q] => return Pattern.orElse (← sub p) (← sub q)
  | "optional", [p] => return .optional (← sub p)
  | "many", [p] => return .many 0 (← sub p)
  | "many_min", [n, p] => return .many n.nat (← sub p)
  | "some", [n, p] => return Pattern.upTo n.nat (← sub p)
  | "some_range", [m, n, p] => (Pattern.between m.nat n.nat (← sub p)).mapError .bounds
  | "repeat", [n, p] => return Pattern.exactlyTimes n.nat (← sub p)
  | "not", [p] => return .not (← sub p)
  | "peek", [p] => return .peek (← sub p)
  | "if_else", [c, y, n] => return .ifElse (← sub c) (← sub y) (← sub n)
  | _, _ => throw (.malformed head)

def patternTo : Nat → Datum → Except NotationError Pattern
  | 0, _ => .error (.malformed "pattern")
  | n + 1, d => do
    match d.elems with
    | [.text head] =>
      match plainPattern? head with
      | some p => return p
      | none => throw (.malformed head)
    | .text head :: args =>
      match ← atomicPattern? head args with
      | some p => return p
      | none => compositePattern (patternTo n) head args
    | _ => throw (.malformed "pattern")

def Datum.pattern (d : Datum) : Except NotationError Pattern := patternTo d.depth d

end Descent.Notation
