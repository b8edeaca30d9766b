import Descent.Parser.Reply

set_option autoImplicit false

namespace Descent.Calculator

inductive AngleMode where
  | none
  | radian
  | degree
  deriving DecidableEq, Repr

inductive Function where
  | one (f : Float → Float)
  | two (f : Float → Float → Float)
  | three (f : Float → Float → Float → Float)
  | fold (start : Float) (f : Float → Float → Float)

namespace Function

def value? : Function → List Float → Option Float
  | one f, [x] => some (f x)
  | two f, [x, y] => some (f x y)
  | three f, [x, y, z] => some (f x y z)
  | fold start f, x :: y :: zs => some ((x :: y :: zs).foldl f start)
  | _, _ => Option.none

end Function

def infinity : Float := 1.0 / 0.0

def greater (x y : Float) : Float := if x.isNaN || x ≤ y then y else x

def smaller (x y : Float) : Float := if x.isNaN || y ≤ x then y else x

def pi : Float := 3.141592653589793

def euler : Float := 2.718281828459045

def toRadians (x : Float) : Float := x * (pi / 180.0)

def toDegrees (x : Float) : Float := x * 57.2957795130823208767981548141051703

def constants : List (String × Float) := [("e", euler), ("pi", pi)]

def commonFunctions : List (String × Function) :=
  [("log", .one Float.log),
   ("log10", .one Float.log10),
   ("abs", .one Float.abs),
   ("max", .fold (-infinity) greater),
   ("min", .fold infinity smaller),
   ("lerp", .three fun x y t => x * (1.0 - t) + y * t)]

def trigonometry (inward outward : Float → Float) : List (String × Function) :=
  [("sin", .one fun x => Float.sin (inward x)),
   ("cos", .one fun x => Float.cos (inward x)),
   ("tan", .one fun x => Float.tan (inward x)),
   ("asin", .one fun x => outward (Float.asin x)),
   ("acos", .one fun x => outward (Float.acos x)),
   ("atan", .one fun x => outward (Float.atan x)),
   ("atan2", .two fun y x => outward (Float.atan2 y x))]

def functions : AngleMode → List (String × Function)
  | .none => commonFunctions
  | .radian => commonFunctions ++ trigonometry (fun x => x) (fun x => x)
  | .degree => commonFunctions ++ trigonometry toRadians toDegrees

def sameName (s t : String) : Bool := s.toList.map Char.toLower == t.toList.map Char.toLower

def constant? (name : String) : Option Float :=
  (constants.find? fun c => sameName c.1 name).map Prod.snd

def call (mode : AngleMode) (name : String) (args : List Float) : Except UserError Float :=
  let constant := if args.isEmpty then constant? name else Option.none
  let value := constant.or
    ((functions mode).findSome? fun f => if sameName f.1 name then f.2.value? args else Option.none)
  match value with
  | some x => .ok x
  | Option.none =>
    .error ⟨s!"'{name}': no constant or function takes {args.length} arguments", Option.none⟩

end Descent.Calculator
