import Descent.Diagnostic.Detail

/-!
Competing diagnostics are merged, not dropped. Merging and relabelling only build a tree; `detail`
flattens it, once for each failure that is reported. A node merged with itself, known by its number,
stays as it is.
-/

set_option autoImplicit false

namespace Descent

inductive Diagnostic where
  | leaf (id : Nat) (d : Detail)
  | merged (id index rank : Nat) (first second : Diagnostic)
  | relabelled (id index rank : Nat) (label : String) (inner : Diagnostic)
  deriving DecidableEq, Repr

namespace Diagnostic

def id : Diagnostic → Nat
  | leaf i _ | merged i _ _ _ _ | relabelled i _ _ _ _ => i

def index : Diagnostic → Nat
  | leaf _ d => d.index
  | merged _ n _ _ _ | relabelled _ n _ _ _ => n

def rank : Diagnostic → Nat
  | leaf _ d => d.rank
  | merged _ _ r _ _ | relabelled _ _ r _ _ => r

def isBare : Diagnostic → Bool
  | leaf _ d => d.rank == 1
  | _ => false

def expecting (id index : Nat) (label : String) : Diagnostic :=
  leaf id { index, expecting := [label] }

def unexpected (id index : Nat) (label : String) : Diagnostic :=
  leaf id { index, unexpected := [label] }

def message (id index : Nat) (text : String) : Diagnostic :=
  leaf id { index, messages := [text] }

def encountered (id index : Nat) (what : String) : Diagnostic :=
  leaf id { index, encountered := some what }

/-- The diagnostic further along; at the same index the one of higher rank; of two bare ones the
first; otherwise both. -/
def merge (id : Nat) (first second : Diagnostic) : Diagnostic :=
  if first.id = second.id then first
  else if first.index ≠ second.index then
    if second.index < first.index then first else second
  else if first.rank ≠ second.rank then
    if second.rank < first.rank then first else second
  else if first.isBare && second.isBare then first
  else merged id first.index first.rank first second

def merge? (id : Nat) : Option Diagnostic → Option Diagnostic → Option Diagnostic
  | some a, some b => some (merge id a b)
  | a, b => a.or b

def relabel (id : Nat) (label : String) : Diagnostic → Diagnostic
  | leaf _ d => leaf id (d.relabel label)
  | e => relabelled id e.index (max e.rank 2) label e

def detail : Diagnostic → Detail
  | leaf _ d => d
  | merged _ n _ a b => { a.detail.append b.detail with index := n }
  | relabelled _ n _ label e => { e.detail.relabel label with index := n }

end Diagnostic

end Descent
