import Descent.Text.Property

set_option autoImplicit false

namespace Descent.Text

def hexDigits (n : Nat) : String := String.ofList (Nat.toDigits 16 n)

def escape (c : Char) : String :=
  if c = '\x00' then "\\0"
  else if c = '\t' then "\\t"
  else if c = '\n' then "\\n"
  else if c = '\r' then "\\r"
  else if c = '\\' then "\\\\"
  else if extendsGrapheme c || !isPrintable c then
    "\\u\x7b" ++ hexDigits c.toNat ++ "\x7d"
  else c.toString

def escapeBare (c : Char) : String :=
  if c = '\x27' || c = '\x22' then "\\" ++ c.toString else escape c

def quoteChar (c : Char) : String :=
  "\x27" ++ (if c = '\x27' then "\\\x27" else escape c) ++ "\x27"

def quote (s : String) : String :=
  "\x22" ++ String.join (s.toList.map fun c => if c = '\x22' then "\\\x22" else escape c) ++ "\x22"

end Descent.Text
