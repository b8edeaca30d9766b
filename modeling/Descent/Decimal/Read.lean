set_option autoImplicit false

namespace Descent.Decimal

inductive ReadError where
  | empty
  | invalid
  deriving DecidableEq, Repr

def ReadError.message : ReadError → String
  | empty => "cannot parse float from empty string"
  | invalid => "invalid float literal"

def digitsValue (ds : List Char) : Nat :=
  ds.foldl (fun n d => 10 * n + (d.toNat - '0'.toNat)) 0

def sign : List Char → Bool × List Char
  | '-' :: s => (true, s)
  | '+' :: s => (false, s)
  | s => (false, s)

def exponent? : List Char → Option Int
  | [] => some 0
  | c :: s =>
    if c = 'e' ∨ c = 'E' then
      let (negative, ds) := sign s
      if ds.isEmpty || !ds.all Char.isDigit then none
      else
        let n := digitsValue ds
        some (if negative then -n else n)
    else none

def exponentLimit : Nat := 400

def nearestFloat (digits count : Nat) (exponent : Int) : Float :=
  if digits = 0 then 0.0
  else if exponentLimit < exponent then 1.0 / 0.0
  else if exponent + count < -(exponentLimit : Int) then 0.0
  else Float.ofScientific digits (decide (exponent < 0)) exponent.natAbs

def unsigned? (s : List Char) : Option Float :=
  let lower := s.map Char.toLower
  if lower = "nan".toList then some (0.0 / 0.0)
  else if lower = "inf".toList ∨ lower = "infinity".toList then some (1.0 / 0.0)
  else
    let whole := s.takeWhile Char.isDigit
    let rest := s.drop whole.length
    let (fraction, rest) := match rest with
      | '.' :: r => (r.takeWhile Char.isDigit, r.dropWhile Char.isDigit)
      | r => ([], r)
    let ds := whole ++ fraction
    if ds.isEmpty then none
    else
      (exponent? rest).map fun e =>
        nearestFloat (digitsValue ds) ds.length (e - fraction.length)

def read (s : String) : Except ReadError Float :=
  if s.isEmpty then .error .empty
  else
    let (negative, rest) := sign s.toList
    match unsigned? rest with
    | some x => .ok (if negative then -x else x)
    | none => .error .invalid

end Descent.Decimal
