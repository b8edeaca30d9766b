import Descent.Pattern.Combinators

set_option autoImplicit false

namespace Descent.Pattern

def word : Pattern := andThen (inClass CharClass.wordStart) (manyOf CharClass.wordPart)

def integer : Pattern := atLeastOf 1 CharClass.digit

def octInteger : Pattern := andThen (char '0') (manyOf (CharClass.range '0' '7'))

def decInteger : Pattern := andThen (range '1' '9') (manyOf CharClass.digit)

def hexInteger : Pattern :=
  andThen (orElse (string "0x") (string "0X")) (atLeastOf 1 CharClass.hexDigit)

def decimalLeft : Pattern :=
  andThen integer (optional (andThen (char '.') (manyOf CharClass.digit)))

def decimalRight : Pattern := andThen (char '.') integer

def decimal : Pattern := orElse decimalLeft decimalRight

def exponent : Pattern := sequence [oneOf ['e', 'E'], optional (char '-'), integer]

def slashed : Pattern :=
  sequence [char '/',
    many 0 (orElse (andThen (char '\\') (atLeast 1)) (noneOf ['/', '\n', '\r', '\\'])), char '/']

def slashedFlags : Pattern := manyOf CharClass.alpha

end Descent.Pattern
