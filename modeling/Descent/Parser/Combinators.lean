import Descent.Parser.Basic

set_option autoImplicit false

namespace Descent.Parser

variable {β : Type} {a b c : Ty}

def zero : Parser β a := reject .silent

def failWith (message : String) : Parser β a := reject (.message message)

def expect (l : String) : Parser β a := reject (.expecting l)

def unexpected (l : String) : Parser β a := reject (.unexpected l)

def tokenWhere (test : Lexeme → Bool) : Parser β .lexeme :=
  token fun l => if test l then some l else none

def anyToken (l : String) : Parser β .lexeme := label l (tokenWhere fun _ => true)

def map (f : a.Value β → b.Value β) (p : Parser β a) : Parser β b := p.bind fun v => ret (f v)

def seqRight (p : Parser β a) (q : Parser β b) : Parser β b := p.bind fun _ => q

def seqLeft (p : Parser β a) (q : Parser β b) : Parser β a :=
  p.bind fun v => q.bind fun _ => ret v

def both (f : a.Value β → b.Value β → c.Value β) (p : Parser β a) (q : Parser β b) : Parser β c :=
  p.bind fun v => q.bind fun w => ret (f v w)

def sequence (first : a.Value β) : List (Parser β a) → Parser β a
  | [] => ret first
  | p :: ps => p.bind fun v => sequence v ps

def collect : List (Parser β a) → Parser β (.list a)
  | [] => ret []
  | p :: ps => p.bind fun v => (collect ps).bind fun vs => ret (v :: vs)

def name? : Parser β a → Option String
  | named n _ => some n
  | _ => none

def rename (n : String) : Parser β a → Parser β a
  | named _ p => named n p
  | p => named n p

/-- An alternation is taken apart unless it has a name. -/
def branches : Parser β a → List (Parser β a)
  | sum _ ps => List.ofFn ps
  | p => [p]

def plus (ps : List (Parser β a)) : Parser β a :=
  let flat := (ps.flatMap branches).toArray
  sum flat.size fun i => flat[i]

def orElse (p q : Parser β a) : Parser β a := plus [p, q]

def longest (ps : List (Parser β a)) : Parser β a :=
  let ps := ps.toArray
  favored .longest ps.size fun i => ps[i]

def shortest (ps : List (Parser β a)) : Parser β a :=
  let ps := ps.toArray
  favored .shortest ps.size fun i => ps[i]

def notWith (l : String) (p : Parser β a) : Parser β .unit :=
  ifElse (peek p) (fun _ => unexpected l) (ret ())

def not (p : Parser β a) : Parser β .unit := notWith (p.name?.getD "something") p

def optional (p : Parser β a) : Parser β (.option a) :=
  plus [map (b := .option a) some p, ret none]

def option (default : a.Value β) (p : Parser β a) : Parser β a := orElse p (ret default)

def isReturn (check : a.Value β → Bool) (l : Option String) (p : Parser β a) : Parser β a :=
  atomize (test check l p)

def between (opening : Parser β b) (closing : Parser β c) (p : Parser β a) : Parser β a :=
  seqRight opening (seqLeft p closing)

end Descent.Parser
