import Descent.Position

set_option autoImplicit false

namespace Descent

structure Detail where
  index : Nat := 0
  encountered : Option String := none
  unexpected : List String := []
  expecting : List String := []
  messages : List String := []
  deriving DecidableEq, Repr

namespace Detail

/-- Two, if something beside what was encountered is said, and otherwise one. -/
def rank (d : Detail) : Nat :=
  if d.expecting.isEmpty && d.unexpected.isEmpty && d.messages.isEmpty then 1 else 2

def append (d e : Detail) : Detail where
  index := d.index
  encountered := d.encountered.or e.encountered
  unexpected := d.unexpected ++ e.unexpected
  expecting := d.expecting ++ e.expecting
  messages := d.messages ++ e.messages

def relabel (d : Detail) (label : String) : Detail := { d with expecting := [label] }

def squeeze : List String → List String
  | [] => []
  | [x] => [x]
  | x :: y :: xs => if x = y then squeeze (y :: xs) else x :: squeeze (y :: xs)

def sorted (xs : List String) : List String :=
  squeeze (xs.mergeSort fun x y => decide (x ≤ y))

def distinct (xs : List String) : List String :=
  xs.foldl (fun seen x => if seen.contains x then seen else seen ++ [x]) []

def alternatives (xs : List String) : String :=
  match xs.getLast? with
  | none => ""
  | some x =>
    match xs.dropLast with
    | [] => x
    | init => String.intercalate " " init ++ " or " ++ x

def render (d : Detail) (p : Position) : String :=
  let line (shown : Bool) (text : String) : String := if shown then text ++ "\n" else ""
  let expecting := sorted d.expecting
  let unexpected := distinct d.unexpected
  p.render ++ ":\n" ++
    line (!expecting.isEmpty) ("expecting " ++ alternatives expecting ++ ".") ++
    line (!unexpected.isEmpty) (String.intercalate " " unexpected ++ " unexpected.") ++
    line (!d.messages.isEmpty) (String.intercalate " or \n" d.messages) ++
    line d.encountered.isSome (d.encountered.getD "" ++ " encountered.")

end Detail

end Descent
