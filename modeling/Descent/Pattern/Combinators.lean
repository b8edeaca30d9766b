import Descent.Pattern.Basic

set_option autoImplicit false

namespace Descent.Pattern

def eof : Pattern := exactly 0

def notChar (c : Char) : Pattern := inClass (CharClass.except c)

def range (lo hi : Char) : Pattern := inClass (CharClass.range lo hi)

def outside (lo hi : Char) : Pattern := inClass (CharClass.outside lo hi)

def oneOf (cs : List Char) : Pattern := inClass (CharClass.oneOf cs)

def noneOf (cs : List Char) : Pattern := inClass (CharClass.noneOf cs)

def string (s : String) : Pattern := text s.toList

def stringNoCase (s : String) : Pattern := textNoCase s.toList

def notString (s : String) : Pattern := notText s.toList

def notStringNoCase (s : String) : Pattern := notTextNoCase s.toList

def anyOf : List Pattern → Pattern
  | [] => never
  | [p] => p
  | ps => any ps

def sequence : List Pattern → Pattern
  | [] => always
  | [p] => p
  | ps => seq ps

def andThen (p q : Pattern) : Pattern := sequence [p, q]

def orElse (p q : Pattern) : Pattern := anyOf [p, q]

def upTo (max : Nat) (p : Pattern) : Pattern := if max = 0 then always else bounded 0 max p

def between (min max : Nat) (p : Pattern) : Except BoundsError Pattern := do
  BoundsError.check min max
  return if max = 0 then always else bounded min max p

def exactlyTimes (n : Nat) (p : Pattern) : Pattern :=
  match n with
  | 0 => always
  | 1 => p
  | n => times n p

def timesOf (n : Nat) (k : CharClass) : Pattern :=
  match n with
  | 0 => always
  | 1 => inClass k
  | n => timesClass n k

def manyOf (k : CharClass) : Pattern := manyClass 0 k

def atLeastOf (min : Nat) (k : CharClass) : Pattern := manyClass min k

def upToOf (max : Nat) (k : CharClass) : Pattern :=
  if max = 0 then always else boundedClass 0 max k

def betweenOf (min max : Nat) (k : CharClass) : Except BoundsError Pattern := do
  BoundsError.check min max
  return if max = 0 then always else boundedClass min max k

def lineComment (opening : String) : Pattern :=
  andThen (string opening) (manyOf (CharClass.except '\n'))

end Descent.Pattern
