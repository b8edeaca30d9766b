import Descent.Regex.Basic

set_option autoImplicit false

namespace Descent.Regex

inductive Direction where
  | forward
  | backward
  deriving DecidableEq, Repr

namespace Direction

def origin : Direction → Anchor
  | forward => .start
  | backward => .stop

def order {α : Type} : Direction → List α → List α
  | forward, xs => xs
  | backward, xs => xs.reverse

end Direction

inductive Normal where
  | empty
  | literal (s : List Char)
  | set (k : Spans)
  | anchor (a : Anchor)
  | loop (min : Nat) (max : Option Nat) (greedy : Bool) (r : Normal)
  | group (r : Normal)
  | cat (rs : List Normal)
  | alt (rs : List Normal)
  deriving Repr

namespace Normal

mutual

def same : Normal → Normal → Bool
  | empty, empty => true
  | literal s, literal t => s == t
  | set k, set l => k == l
  | anchor a, anchor b => a == b
  | loop min max greedy r, loop min' max' greedy' r' =>
    min == min' && max == max' && greedy == greedy' && r.same r'
  | cat rs, cat ss => sameAll rs ss
  | alt rs, alt ss => sameAll rs ss
  | _, _ => false

def sameAll : List Normal → List Normal → Bool
  | [], [] => true
  | r :: rs, s :: ss => r.same s && sameAll rs ss
  | _, _ => false

end

mutual

def readsNothing : Normal → Bool
  | empty | anchor _ => true
  | literal _ | set _ => false
  | loop _ _ _ r | group r => r.readsNothing
  | cat rs | alt rs => allReadNothing rs

def allReadNothing : List Normal → Bool
  | [] => true
  | r :: rs => r.readsNothing && allReadNothing rs

end

mutual

def leastLength : Normal → Option Nat
  | empty | anchor _ => some 0
  | literal s => some s.length
  | set k => if k.isEmpty then none else some 1
  | loop min _ _ r => r.leastLength.map (min * ·)
  | group r => r.leastLength
  | cat rs => (leastLengths rs).map List.sum
  | alt rs => (leastLengths rs).bind List.min?

def leastLengths : List Normal → Option (List Nat)
  | [] => some []
  | r :: rs => do return (← r.leastLength) :: (← leastLengths rs)

end

def readsAlways (r : Normal) : Bool := r.leastLength.any fun n => decide (0 < n)

mutual

def pinned (d : Direction) : Normal → Bool
  | anchor a => a == d.origin
  | loop min _ _ r => decide (0 < min) && r.pinned d
  | group r => r.pinned d
  | cat rs => pinnedCat d rs
  | alt rs => pinnedAll d rs
  | _ => false

def pinnedCat (d : Direction) : List Normal → Bool
  | [] => false
  | r :: rs =>
    match d with
    | .forward => r.pinned d || r.readsNothing && pinnedCat d rs
    | .backward => r.pinned d && allReadNothing rs || pinnedCat d rs

def pinnedAll (d : Direction) : List Normal → Bool
  | [] => true
  | r :: rs => r.pinned d && pinnedAll d rs

end

def ofSpans : Spans → Normal
  | [s] => if s.lo = s.hi then literal [s.lo] else set [s]
  | k => set k

def ofItems : List Normal → Normal
  | [] => empty
  | [r] => r
  | rs => cat rs

def items : Normal → List Normal
  | empty => []
  | cat rs => rs
  | r => [r]

def branches : Normal → List Normal
  | alt rs => rs
  | r => [r]

def join : List Normal → List Normal → List Normal
  | [], ss => ss
  | [literal s], literal t :: ss => literal (s ++ t) :: ss
  | r :: rs, ss => r :: join rs ss

-- A second round that reads nothing adds nothing.
def repeated (min : Nat) (max : Option Nat) (greedy : Bool) (r : Normal) : Normal :=
  let (min, max) :=
    if r.readsNothing then (Nat.min min 1, some (Nat.min (max.getD 1) 1)) else (min, max)
  match min, max with
  | 0, some 0 => empty
  | 1, some 1 => r
  | min, max => loop min max greedy r

def choice? (rs : List Normal) : Option Spans :=
  let single : Normal → Option Spans
    | literal [c] => some [.single c]
    | _ => none
  let members : Normal → Option Spans
    | set k => some k
    | _ => none
  (rs.mapM single <|> rs.mapM members).map (Spans.ordered ·.flatten)

def ofBranches (rs : List Normal) : Normal :=
  match choice? rs with
  | some k => ofSpans k
  | none => alt rs

def common : List Normal → List Normal → List Normal
  | r :: rs, s :: ss => if r.same s then r :: common rs ss else []
  | _, _ => []

def sharedItems (rs : List Normal) : List Normal :=
  let sequence : Normal → Option (List Normal)
    | cat items => some items
    | _ => none
  match rs.mapM sequence with
  | some (first :: rest) => rest.foldl common first
  | _ => []

def alternation (rs : List Normal) : Normal :=
  match rs.flatMap branches with
  | [r] => r
  | rs =>
    match sharedItems rs with
    | [] => ofBranches rs
    | shared =>
      let rest := rs.map fun r => ofItems (r.items.drop shared.length)
      ofItems (join shared (ofBranches (rest.flatMap branches)).items)

end Normal

-- A regular expression is read from its end, so more can be put in front.
inductive Draft where
  | sequence (items : List Normal)
  | alternatives (branches : List Normal)

namespace Draft

def normal : Draft → Normal
  | sequence items => .ofItems items
  | alternatives branches => .alternation branches

def items : Draft → List Normal
  | sequence items => items
  | alternatives branches => (Normal.alternation branches).items

def branches : Draft → List Normal
  | sequence items => [.ofItems items]
  | alternatives branches => branches

end Draft

def draft : Regex → Draft
  | .empty => .sequence []
  | .set k => .sequence [.ofSpans k.spans]
  | .dot => .sequence [.set (Spans.complement [.single '\n'])]
  | .anchor a => .sequence [.anchor a]
  | .cat r s => .sequence (Normal.join r.draft.items s.draft.items)
  | .alt r s => .alternatives (r.draft.normal :: s.draft.branches)
  | .loop min max greedy r => .sequence (Normal.repeated min max greedy r.draft.normal).items
  | .group .plain r => .sequence r.draft.items
  | .group _ r => .sequence [.group r.draft.normal]

def normal (r : Regex) : Normal := r.draft.normal

end Descent.Regex
