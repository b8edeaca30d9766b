import Descent.Parser.Combinators

set_option autoImplicit false

namespace Descent.Parser

variable {β : Type} {a b c : Ty}

def discard (_ : List (a.Value β)) : Ty.unit.Value β := ()

def count (vs : List (a.Value β)) : Ty.nat.Value β := vs.length

def manyWith (min : Nat) (finish : List (a.Value β) → b.Value β) (p : Parser β a) : Parser β b :=
  loop p min none finish

def manyMin (min : Nat) (p : Parser β a) : Parser β (.list a) :=
  manyWith (b := .list a) min (fun vs => vs) p

def many (p : Parser β a) : Parser β (.list a) := manyMin 0 p

def skipMany (p : Parser β a) : Parser β .unit := manyWith (b := .unit) 0 discard p

def countMany (min : Nat) (p : Parser β a) : Parser β .nat := manyWith (b := .nat) min count p

def upToWith (max : Nat) (finish : List (a.Value β) → b.Value β) (p : Parser β a) : Parser β b :=
  loop p 0 (some max) finish

def upTo (max : Nat) (p : Parser β a) : Parser β (.list a) :=
  upToWith (b := .list a) max (fun vs => vs) p

def skipUpTo (max : Nat) (p : Parser β a) : Parser β .unit := upToWith (b := .unit) max discard p

def rangeWith (min max : Nat) (finish : List (a.Value β) → b.Value β) (p : Parser β a) :
    Except BoundsError (Parser β b) := do
  BoundsError.check min max
  return loop p min (some max) finish

def range (min max : Nat) (p : Parser β a) : Except BoundsError (Parser β (.list a)) :=
  rangeWith (b := .list a) min max (fun vs => vs) p

def countRange (min max : Nat) (p : Parser β a) : Except BoundsError (Parser β .nat) :=
  rangeWith (b := .nat) min max count p

def timesWith (n : Nat) (finish : List (a.Value β) → b.Value β) (p : Parser β a) : Parser β b :=
  loop p n (some n) finish

def times (n : Nat) (p : Parser β a) : Parser β (.list a) :=
  timesWith (b := .list a) n (fun vs => vs) p

def skipTimes (n : Nat) (p : Parser β a) : Parser β .unit := timesWith (b := .unit) n discard p

def listWith (finish : List (a.Value β) → b.Value β) (p rest : Parser β a) : Parser β b :=
  p.bind fun v => loop rest 0 none fun vs => finish (v :: vs)

def sepBy1With (finish : List (a.Value β) → b.Value β) (sep : Parser β c) (p : Parser β a) :
    Parser β b :=
  listWith finish p (seqRight sep p)

def sepBy1 (sep : Parser β c) (p : Parser β a) : Parser β (.list a) :=
  sepBy1With (b := .list a) (fun vs => vs) sep p

def sepBy (sep : Parser β c) (p : Parser β a) : Parser β (.list a) := orElse (sepBy1 sep p) (ret [])

def skipSepBy1 (sep : Parser β c) (p : Parser β a) : Parser β .unit :=
  sepBy1With (b := .unit) discard sep p

def skipSepBy (sep : Parser β c) (p : Parser β a) : Parser β .unit :=
  orElse (skipSepBy1 sep p) (ret ())

def endOfList (collected : Option (a.Value β)) (key : Key) : Handling β (a.Value β) :=
  match collected with
  | some v => if key.id = .listEnd then ⟨.value v, []⟩ else ⟨.propagate (some v), []⟩
  | none => ⟨.propagate none, []⟩

/-- After a separator either an element follows, or the list ends by raising its key; the loop
leaves what it has collected in the signal. -/
def sepEndBy1With (finish : List (a.Value β) → b.Value β) (sep : Parser β c) (p : Parser β a) :
    Parser β b :=
  tryCatch (listWith finish p (seqRight sep (orElse p (raise .listEnd)))) endOfList
    fun _ _ => zero

def sepEndBy1 (sep : Parser β c) (p : Parser β a) : Parser β (.list a) :=
  sepEndBy1With (b := .list a) (fun vs => vs) sep p

def sepEndBy (sep : Parser β c) (p : Parser β a) : Parser β (.list a) :=
  orElse (sepEndBy1 sep p) (ret [])

def skipSepEndBy1 (sep : Parser β c) (p : Parser β a) : Parser β .unit :=
  sepEndBy1With (b := .unit) discard sep p

def skipSepEndBy (sep : Parser β c) (p : Parser β a) : Parser β .unit :=
  orElse (skipSepEndBy1 sep p) (ret ())

def endBy (sep : Parser β c) (p : Parser β a) : Parser β (.list a) := many (seqLeft p sep)

def endBy1 (sep : Parser β c) (p : Parser β a) : Parser β (.list a) := manyMin 1 (seqLeft p sep)

def skipEndBy (sep : Parser β c) (p : Parser β a) : Parser β .unit := skipMany (seqLeft p sep)

def skipEndBy1 (sep : Parser β c) (p : Parser β a) : Parser β .unit :=
  manyWith (b := .unit) 1 discard (seqLeft p sep)

end Descent.Parser
