set_option autoImplicit false

namespace Descent

inductive WordKind where
  | integer
  | decimal
  | word
  | reserved
  deriving DecidableEq, Repr

inductive Token where
  | word (kind : WordKind) (text : String)
  | char (c : Char)
  | long (n : Int)
  | string (s : String)
  | quoted (opening body closing : String)
  | eof
  deriving DecidableEq, Repr

namespace Token

def plainWord (text : String) : Token := word .word text

def reserved (text : String) : Token := word .reserved text

def wordText? (kind : WordKind) : Token → Option String
  | word k text => if k = kind then some text else none
  | _ => none

def render : Token → String
  | word _ text => text
  | char c => c.toString
  | long n => toString n
  | string s => s
  | quoted opening body closing => opening ++ body ++ closing
  | eof => "EOF"

end Token

structure Lexeme where
  index : Nat
  length : Nat
  token : Token
  deriving DecidableEq, Repr

end Descent
