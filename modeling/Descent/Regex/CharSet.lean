import Descent.Regex.Span

set_option autoImplicit false

namespace Descent.Regex

inductive CharSet where
  | empty
  | range (lo hi : Char)
  | named (negated : Bool) (k : Spans)
  | union (s t : CharSet)
  | intersection (s t : CharSet)
  | difference (s t : CharSet)
  | symmetric (s t : CharSet)
  | bracket (negated : Bool) (s : CharSet)
  deriving DecidableEq, Repr

namespace CharSet

def spansWith (rest : Spans) : CharSet → Spans
  | empty => rest
  | range lo hi => ⟨lo, hi⟩ :: rest
  | named negated k => (if negated then k.ordered.complement else k) ++ rest
  | union s t => s.spansWith (t.spansWith rest)
  | intersection s t => (s.spansWith []).ordered.meet (t.spansWith []).ordered ++ rest
  | difference s t => (s.spansWith []).ordered.minus (t.spansWith []).ordered ++ rest
  | symmetric s t =>
    let k := (s.spansWith []).ordered
    let l := (t.spansWith []).ordered
    (k ++ l).ordered.minus (k.meet l) ++ rest
  | bracket negated s =>
    let k := (s.spansWith []).ordered
    (if negated then k.complement else k) ++ rest

def spans (k : CharSet) : Spans := k.spansWith []

def single (c : Char) : CharSet := range c c

def add (s t : CharSet) : CharSet :=
  match s with
  | empty => t
  | s => union s t

def nesting (listed : Bool) : CharSet → Nat
  | empty | range .. | named .. => 0
  | union s t => (if listed then 0 else 1) + max (s.nesting true) (t.nesting false)
  | intersection s t | difference s t | symmetric s t =>
    1 + max (s.nesting false) (t.nesting false)
  | bracket _ s => 1 + s.nesting false

end CharSet

def asciiClasses : List (String × Spans) :=
  [("alnum", [⟨'0', '9'⟩, ⟨'A', 'Z'⟩, ⟨'a', 'z'⟩]),
   ("alpha", [⟨'A', 'Z'⟩, ⟨'a', 'z'⟩]),
   ("ascii", [⟨'\x00', '\x7f'⟩]),
   ("blank", [⟨'\t', '\t'⟩, ⟨' ', ' '⟩]),
   ("cntrl", [⟨'\x00', '\x1f'⟩, ⟨'\x7f', '\x7f'⟩]),
   ("digit", [⟨'0', '9'⟩]),
   ("graph", [⟨'!', '~'⟩]),
   ("lower", [⟨'a', 'z'⟩]),
   ("print", [⟨' ', '~'⟩]),
   ("punct", [⟨'!', '/'⟩, ⟨':', '@'⟩, ⟨'[', '\x60'⟩, ⟨'\x7b', '~'⟩]),
   ("space", [⟨'\t', '\r'⟩, ⟨' ', ' '⟩]),
   ("upper", [⟨'A', 'Z'⟩]),
   ("word", [⟨'0', '9'⟩, ⟨'A', 'Z'⟩, ⟨'_', '_'⟩, ⟨'a', 'z'⟩]),
   ("xdigit", [⟨'0', '9'⟩, ⟨'A', 'F'⟩, ⟨'a', 'f'⟩])]

end Descent.Regex
