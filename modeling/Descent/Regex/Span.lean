set_option autoImplicit false

namespace Descent.Regex

structure Span where
  lo : Char
  hi : Char
  deriving DecidableEq, Repr

abbrev Spans := List Span

def following (c : Char) : Char :=
  if c.toNat = 0xd7ff then '\ue000' else Char.ofNat (c.toNat + 1)

def preceding (c : Char) : Char :=
  if c.toNat = 0xe000 then Char.ofNat 0xd7ff else Char.ofNat (c.toNat - 1)

def firstChar : Char := '\x00'

def lastChar : Char := Char.ofNat 0x10ffff

namespace Span

def single (c : Char) : Span := ⟨c, c⟩

def contains (s : Span) (c : Char) : Bool := decide (s.lo ≤ c) && decide (c ≤ s.hi)

def between (a b : Char) : Span := if a ≤ b then ⟨a, b⟩ else ⟨b, a⟩

def touches (s t : Span) : Bool := decide (t.lo.toNat ≤ s.hi.toNat + 1)

def meet? (s t : Span) : Option Span :=
  let lo := if s.lo ≤ t.lo then t.lo else s.lo
  let hi := if s.hi ≤ t.hi then s.hi else t.hi
  if lo ≤ hi then some ⟨lo, hi⟩ else none

def minus (s t : Span) : Spans :=
  match s.meet? t with
  | none => [s]
  | some m =>
    (if s.lo < m.lo then [⟨s.lo, preceding m.lo⟩] else []) ++
      (if m.hi < s.hi then [⟨following m.hi, s.hi⟩] else [])

end Span

namespace Spans

def contains (k : Spans) (c : Char) : Bool := k.any (·.contains c)

def absorb (s : Span) : Spans → Spans
  | [] => [s]
  | t :: k =>
    if s.touches t then absorb ⟨s.lo, if s.hi ≤ t.hi then t.hi else s.hi⟩ k else s :: absorb t k

def ordered (k : Spans) : Spans :=
  match k.mergeSort fun s t => decide (s.lo ≤ t.lo) with
  | [] => []
  | s :: k => absorb s k

def meet (k l : Spans) : Spans := k.flatMap fun s => l.filterMap s.meet?

def minus (k l : Spans) : Spans :=
  k.flatMap fun s => l.foldl (fun rest t => rest.flatMap (·.minus t)) [s]

def gaps : Spans → Spans
  | [] => []
  | [s] => if s.hi < lastChar then [⟨following s.hi, lastChar⟩] else []
  | s :: t :: k => .between (following s.hi) (preceding t.lo) :: gaps (t :: k)

def complement : Spans → Spans
  | [] => [⟨firstChar, lastChar⟩]
  | s :: k => (if firstChar < s.lo then [⟨firstChar, preceding s.lo⟩] else []) ++ gaps (s :: k)

end Spans

end Descent.Regex
