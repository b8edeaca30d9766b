import Descent.Text.Bytes
import Descent.Text.Escaped
import Descent.Token.Basic

set_option autoImplicit false

namespace Descent

inductive TokenError where
  | range (first length : Nat)
  | illegalChar (text : String)
  | invalidDigit (digit : Char) (text : String)
  | overflow (text : String)
  | unquoted (text opening closing : String)
  deriving DecidableEq, Repr

def TokenError.message : TokenError → String
  | range first length => s!"range {first}+{length} is not a valid slice of the source"
  | illegalChar text => "illegal char literal " ++ text
  | invalidDigit digit text => "invalid digit " ++ Text.quoteChar digit ++ " in " ++ text
  | overflow text => "integer literal " ++ text ++ " out of range"
  | unquoted text opening closing =>
    text ++ " is not quoted by " ++ opening ++ " and " ++ closing

abbrev TokenReader := List Char → Nat → Nat → Except TokenError Token

namespace TokenReader

def slice (source : List Char) (first length : Nat) : Except TokenError (List Char) :=
  match Text.slice? source first (first + length) with
  | some s => .ok s
  | none => .error (.range first length)

def ofText (f : List Char → Except TokenError Token) : TokenReader := fun source first length =>
  slice source first length >>= f

def value (t : Token) : TokenReader := fun _ _ _ => .ok t

def word (kind : WordKind) : TokenReader := ofText fun s => .ok (.word kind (String.ofList s))

def string : TokenReader := ofText fun s => .ok (.string (String.ofList s))

def unescape (c : Char) : Char :=
  if c = 'n' then '\n' else if c = 'r' then '\r' else if c = 't' then '\t' else c

def char : TokenReader := ofText fun
  | [_, c, _] => .ok (.char c)
  | [a, b, c, d] =>
    if b = '\\' then .ok (.char (unescape c))
    else .error (.illegalChar (String.ofList [a, b, c, d]))
  | s => .error (.illegalChar (String.ofList s))

def strip (opening closing : String) (s : List Char) : Except TokenError (List Char) :=
  let rest := s.drop opening.length
  if opening.toList.isPrefixOf s && closing.toList.isSuffixOf rest then
    .ok (rest.take (rest.length - closing.length))
  else .error (.unquoted (String.ofList s) opening closing)

def undouble : List Char → List Char
  | '\x27' :: '\x27' :: s => '\x27' :: undouble s
  | c :: s => c :: undouble s
  | [] => []

def sqlString : TokenReader := ofText fun s => do
  let body ← strip "\x27" "\x27" s
  return .string (String.ofList (undouble body))

def unescapeAll : List Char → List Char
  | '\\' :: c :: s => unescape c :: unescapeAll s
  | ['\\'] => []
  | c :: s => c :: unescapeAll s
  | [] => []

def simpleString : TokenReader := ofText fun s => do
  let body ← strip "\x22" "\x22" s
  return .string (String.ofList (unescapeAll body))

def digit? (radix : Nat) (c : Char) : Option Nat :=
  let value :=
    if '0' ≤ c ∧ c ≤ '9' then some (c.toNat - '0'.toNat)
    else if 'a' ≤ c ∧ c ≤ 'f' then some (c.toNat - 'a'.toNat + 10)
    else if 'A' ≤ c ∧ c ≤ 'F' then some (c.toNat - 'A'.toNat + 10)
    else none
  value.filter (· < radix)

def longLimit : Nat := Nat.pow 2 63 - 1

def digits (radix : Nat) (text : String) : Nat → List Char → Except TokenError Nat
  | n, [] => .ok n
  | n, c :: s =>
    match digit? radix c with
    | none => .error (.invalidDigit c text)
    | some d =>
      if longLimit < n * radix + d then .error (.overflow text)
      else digits radix text (n * radix + d) s

def long (radix : Nat) (s : List Char) : Except TokenError Token :=
  (digits radix (String.ofList s) 0 s).map fun n => .long n

def decimalLong : TokenReader := ofText (long 10)

def octLong : TokenReader := ofText (long 8)

def hexLong : TokenReader := ofText fun s =>
  match s with
  | '0' :: 'x' :: ds | '0' :: 'X' :: ds => long 16 ds
  | ds => long 16 ds

def quoted (opening closing : String) : TokenReader := ofText fun s => do
  let body ← strip opening closing s
  return .quoted opening (String.ofList body) closing

end TokenReader

end Descent
