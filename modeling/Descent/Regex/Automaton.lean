import Descent.Regex.Size
import Descent.Text.Bytes

/-!
All runs advance together, the most preferred first, and a run that accepts ends those after it. A
run that begins later comes after all that began before it.
-/

set_option autoImplicit false

namespace Descent

namespace Regex

inductive Node where
  | read (k : Spans) (next : Nat)
  | fork (first second : Nat)
  | check (a : Anchor) (next : Nat)
  | accept
  deriving DecidableEq, Repr

namespace Node

def choice (greedy : Bool) (body next : Nat) : Node :=
  if greedy then fork body next else fork next body

def isAccept : Node → Bool
  | accept => true
  | _ => false

def after? (c : Char) : Node → Option Nat
  | read k next => if k.contains c then some next else none
  | _ => none

end Node

structure Automaton where
  nodes : Array Node
  first : Nat
  pinned : Bool
  deriving DecidableEq, Repr

def iterate {α : Type} (step : α → α) : Nat → α → α
  | 0, x => x
  | n + 1, x => iterate step n (step x)

abbrev Wiring := Nat × Array Node

namespace Wiring

def push (n : Nat → Node) : Wiring → Wiring
  | (next, p) => (p.size, p.push (n next))

def optional (greedy : Bool) (leave : Nat) (round : Wiring → Wiring) (w : Wiring) : Wiring :=
  push (.choice greedy · leave) (round w)

-- The hub is filled in last, since a round goes back to it.
def endless (greedy : Bool) (round : Wiring → Wiring) : Wiring → Wiring × Nat
  | (next, p) =>
    let hub := p.size
    let (body, p) := round (hub, p.push .accept)
    ((body, p.setIfInBounds hub (.choice greedy body next)), hub)

def loop (min : Nat) (max : Option Nat) (greedy readsAlways : Bool) (round : Wiring → Wiring) :
    Wiring → Wiring
  | (next, p) =>
    match min, max with
    | min, some max =>
      iterate round min (iterate (optional greedy next round) (max - min) (next, p))
    | 0, none =>
      let ((body, p), hub) := endless greedy round (next, p)
      if readsAlways then (hub, p) else push (.choice greedy · next) (body, p)
    | min + 1, none => iterate round min (endless greedy round (next, p)).1

end Wiring

namespace Normal

mutual

def wire : Normal → Wiring → Wiring
  | empty, w => w
  | literal s, w => s.foldr (fun c => Wiring.push (.read [.single c])) w
  | set k, w => w.push (.read k)
  | anchor a, w => w.push (.check a)
  | loop min max greedy r, w => w.loop min max greedy r.readsAlways r.wire
  | group r, w => r.wire w
  | cat rs, w => wireAll rs w
  | alt rs, w => wireAny rs w

def wireAll : List Normal → Wiring → Wiring
  | [], w => w
  | r :: rs, w => r.wire (wireAll rs w)

def wireAny : List Normal → Wiring → Wiring
  | [], w => w
  | [r], w => r.wire w
  | r :: rs, (next, p) =>
    let (second, p) := wireAny rs (next, p)
    let (first, p) := r.wire (next, p)
    (p.size, p.push (.fork first second))

end

def automaton (r : Normal) : Automaton :=
  let (first, nodes) := r.wire (0, #[.accept])
  ⟨nodes, first, r.pinned .forward⟩

end Normal

namespace Automaton

-- Each state is visited once: `seen` has `turn` for those that were. The first argument of the
-- recursion bounds the visits.
def closure (m : Automaton) (before after : Option Char) (turn : Nat) :
    Nat → List Nat → Array Nat → List Node → List Node × Array Nat
  | 0, _, seen, found => (found.reverse, seen)
  | _ + 1, [], seen, found => (found.reverse, seen)
  | n + 1, i :: todo, seen, found =>
    match seen[i]?, m.nodes[i]? with
    | some visit, some node =>
      if visit = turn then m.closure before after turn n todo seen found
      else
        let seen := seen.setIfInBounds i turn
        match node with
        | .fork a b => m.closure before after turn n (a :: b :: todo) seen found
        | .check a next =>
          m.closure before after turn n (if a.holds before after then next :: todo else todo) seen
            found
        | node => m.closure before after turn n todo seen (node :: found)
    | _, _ => m.closure before after turn n todo seen found

-- `done` bytes have been read, and `before` is the last character of them. While there is no
-- match, one may begin at each place; `turn` counts the places.
def advance (m : Automaton) (before : Option Char) (turn : Nat) (todo : List Nat) (done : Nat)
    (best : Option Nat) (seen : Array Nat) (s : List Char) : Option Nat :=
  let todo := if best.isNone && (before.isNone || !m.pinned) then todo ++ [m.first] else todo
  if todo.isEmpty then best
  else
    let (found, seen) := m.closure before s.head? turn (todo.length + 2 * m.nodes.size + 1) todo
      seen []
    let live := found.takeWhile (!·.isAccept)
    let best := if found.any Node.isAccept then some done else best
    match s with
    | [] => best
    | c :: s =>
      m.advance (some c) (turn + 1) (live.filterMap (Node.after? c)) (done + c.utf8Size) best seen s

def matchEnd (m : Automaton) (s : List Char) : Option Nat :=
  m.advance none 1 [] 0 none (Array.replicate m.nodes.size 0) s

end Automaton

end Regex

end Descent
