import Descent.Decimal.Read
import Descent.Notation.Datum
import Descent.Token.Reader

set_option autoImplicit false

namespace Descent.Notation

def Datum.check (d : Datum) (v : Value) : Bool :=
  match d.get? "eq", d.get? "ne", d.get? "max", d.get? "min" with
  | some x, _, _, _ => v.same x.value
  | _, some x, _, _ => !v.same x.value
  | _, _, some n, _ => decide (v.size ≤ n.asInt)
  | _, _, _, some n => decide (n.asInt ≤ v.size)
  | _, _, _, _ => true

def numberOf (s : String) : Int :=
  let (negative, ds) := Decimal.sign s.toList
  if ds.isEmpty || !ds.all Char.isDigit then -1
  else
    let n := Decimal.digitsValue ds
    if negative then if n ≤ TokenReader.longLimit + 1 then -n else -1
    else if n ≤ TokenReader.longLimit then n else -1

def Datum.function (d : Datum) (v : Value) : Value :=
  match d with
  | text "size" => .int v.size
  | text "str" => .text v.flat
  | text "int" => .int (numberOf v.flat)
  | d =>
    match d.get? "tag" with
    | some tag => .list [.text tag.str, v]
    | none => (d.field "const").value

end Descent.Notation
