import Descent.Decimal.Binary

/-!
A decimal reads back to a number if it lies in the interval of reals that round to it. For one
digit, two digits and so on the number's two neighbours on that decimal grid are tried.
-/

set_option autoImplicit false

namespace Descent.Decimal

structure Digits where
  digits : Nat
  exponent : Int
  deriving DecidableEq, Repr

structure Interval where
  low : Nat
  value : Nat
  high : Nat
  closed : Bool

-- A binade begins at `hidden`, so below that mantissa the neighbour is nearer.
def Interval.around (mantissa : Nat) (exponent : Int) : Interval where
  low := 4 * mantissa -
    (if mantissa = Binary.hidden ∧ Binary.leastExponent < exponent then 1 else 2)
  value := 4 * mantissa
  high := 4 * mantissa + 2
  closed := mantissa % 2 == 0

namespace Interval

def scale (i : Interval) (n : Nat) : Interval :=
  { i with low := i.low * n, value := i.value * n, high := i.high * n }

def contains (i : Interval) (n : Nat) : Bool :=
  if i.closed then decide (i.low ≤ n) && decide (n ≤ i.high)
  else decide (i.low < n) && decide (n < i.high)

def nearest? (i : Interval) (unit : Nat) : Option Nat :=
  let below := i.value / unit
  let above := below + 1
  let down := i.contains (below * unit)
  let up := i.contains (above * unit)
  if up && (!down || decide (unit ≤ 2 * (i.value - below * unit))) then some above
  else if down then some below
  else none

end Interval

def digitCount (n : Nat) : Nat := (Nat.toDigits 10 n).length

def leadingExponent (num den : Nat) : Int :=
  if den ≤ num then (digitCount (num / den) : Int) - 1
  else -(digitCount ((den + num - 1) / num - 1) : Int)

def search (i : Interval) (unit : Nat) (leading : Int) : Nat → Nat → Digits
  | 0, _ => ⟨0, 0⟩
  | tries + 1, count =>
    let place : Int := leading - (count : Int) + 1
    let found :=
      if 0 ≤ place then i.nearest? (unit * Nat.pow 10 place.toNat)
      else (i.scale (Nat.pow 10 (-place).toNat)).nearest? unit
    match found with
    | some d => ⟨d, place⟩
    | none => search i unit leading tries (count + 1)

def shortest (mantissa : Nat) (exponent : Int) : Digits :=
  let i := (Interval.around mantissa exponent).scale (Nat.pow 2 exponent.toNat)
  let unit := 4 * Nat.pow 2 (-exponent).toNat
  search i unit (leadingExponent i.value unit) 17 1

def Digits.render (d : Digits) : String :=
  if 0 ≤ d.exponent then toString (d.digits * Nat.pow 10 d.exponent.toNat)
  else
    let places := (-d.exponent).toNat
    let one := Nat.pow 10 places
    let whole := d.digits / one
    let digits := Nat.toDigits 10 (d.digits % one)
    let fraction := List.replicate (places - digits.length) '0' ++ digits
    let fraction := (fraction.reverse.dropWhile (· == '0')).reverse
    toString whole ++ (if fraction.isEmpty then "" else "." ++ String.ofList fraction)

def render (x : Float) : String :=
  match Binary.ofFloat x with
  | .nan => "NaN"
  | .infinite negative => if negative then "-inf" else "inf"
  | .finite negative mantissa exponent =>
    (if negative then "-" else "") ++
      (if mantissa = 0 then "0" else (shortest mantissa exponent).render)

end Descent.Decimal
