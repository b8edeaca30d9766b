set_option autoImplicit false

namespace Descent

inductive Binary where
  | nan
  | infinite (negative : Bool)
  | finite (negative : Bool) (mantissa : Nat) (exponent : Int)
  deriving DecidableEq, Repr

namespace Binary

def leastExponent : Int := -1074

def hidden : Nat := Nat.pow 2 52

def ofBits (bits : Nat) : Binary :=
  let negative := bits / Nat.pow 2 63 % 2 == 1
  let exponent := bits / hidden % Nat.pow 2 11
  let fraction := bits % hidden
  if exponent = Nat.pow 2 11 - 1 then if fraction = 0 then infinite negative else nan
  else if exponent = 0 then finite negative fraction leastExponent
  else finite negative (hidden + fraction) (leastExponent + ((exponent : Int) - 1))

def ofFloat (x : Float) : Binary := ofBits x.toBits.toNat

def toFloat : Binary → Float
  | nan => 0.0 / 0.0
  | infinite negative => if negative then -1.0 / 0.0 else 1.0 / 0.0
  | finite negative mantissa exponent =>
    let x := (Float.ofNat mantissa).scaleB exponent
    if negative then -x else x

def rem (x y : Binary) : Binary :=
  match x, y with
  | finite sx mx ex, finite _ my ey =>
    if my = 0 then nan
    else
      let least := min ex ey
      finite sx (mx * Nat.pow 2 (ex - least).toNat % (my * Nat.pow 2 (ey - least).toNat)) least
  | finite .., infinite _ => x
  | _, _ => nan

end Binary

end Descent
