import Std.Data.TreeMap
import Descent.Regex.Bytes
import Descent.Regex.Normal

/-!
Automata are counted for reading forward and backward. States that go on alike within a set of
characters are shared, and so are the beginnings of literals that are alternatives.
-/

set_option autoImplicit false

namespace Descent.Regex

def Direction.slots : Direction → Nat
  | forward => 10000
  | backward => 1000

def sizeLimit : Nat := 10485760

def stateSize : Nat := 32

def branchSize : Nat := 4

def rangeSize : Nat := 8

structure Tally where
  states : Nat
  bytes : Nat
  deriving DecidableEq, Repr

namespace Tally

def state (own : Nat) (t : Tally) : Tally := ⟨t.states + 1, t.bytes + stateSize + own⟩

def branches (n : Nat) (t : Tally) : Tally := ⟨t.states, t.bytes + n * branchSize⟩

def fork (t : Tally) : Tally := (t.state 0).branches 2

def exceeds (t : Tally) : Bool := decide (sizeLimit < t.bytes)

def times (round : Tally → Tally) : Nat → Tally → Tally
  | 0, t => t
  | n + 1, t => if t.exceeds then t else times round n (round t)

def ranges (n : Nat) (t : Tally) : Tally := (t.state 0).state (n * rangeSize)

def loop (min : Nat) (max : Option Nat) (readsAlways : Bool) (round : Tally → Tally)
    (t : Tally) : Tally :=
  match min, max with
  | 0, some 1 => (round t.fork).state 0
  | 0, none => if readsAlways then round t.fork else (round t).fork.fork.state 0
  | min, none => (times round min t).fork
  | min, some max =>
    let t := if min = 0 then t.state 0 else times round min t
    if min = max then t else times (fun t => round t.fork) (max - min) (t.state 0)

end Tally

-- A state takes the place of the one that has been in its slot.
structure Sharing where
  slots : Nat
  held : Std.TreeMap Nat (List Nat × Nat)

namespace Sharing

def ofSlots (slots : Nat) : Sharing := ⟨slots, ∅⟩

def mix (key : List Nat) : UInt64 :=
  key.foldl (fun h n => (h ^^^ n.toUInt64) * 1099511628211) 14695981039346656037

def share (key : List Nat) (own : Nat) (t : Tally) (table : Sharing) : Nat × Tally × Sharing :=
  let slot := (mix key).toNat % table.slots
  let new := (t.states, t.state own, { table with held := table.held.insert slot (key, t.states) })
  match table.held[slot]? with
  | some (k, i) => if k = key then (i, t, table) else new
  | none => new

def readForward (last : Nat) :
    Nat → List (List ByteRange) → Tally → Sharing → Nat × Tally × Sharing
  | 0, _, t, table => (last, t, table)
  | n + 1, seqs, t, table =>
    match byHead seqs with
    | [] => (last, t, table)
    | heads =>
      let (key, t, table) := heads.foldl (fun (key, t, table) ((lo, hi), rest) =>
        let (next, t, table) := readForward last n rest t table
        (next :: hi.toNat :: lo.toNat :: key, t, table)) ([], t, table)
      share key.reverse (heads.length * rangeSize) t table

def readBackward (last : Nat) (seq : List ByteRange) (t : Tally) (table : Sharing) :
    Tally × Sharing :=
  (seq.foldl (fun (next, t, table) (lo, hi) => share [next, lo.toNat, hi.toNat] 0 t table)
    (last, t, table)).2

end Sharing

def Tally.set (d : Direction) (k : Spans) (t : Tally) : Tally :=
  if k.isAscii then t.ranges k.length
  else
    let seqs := k.byteRanges
    let table := Sharing.ofSlots d.slots
    match d with
    | .forward => (Sharing.readForward t.states 4 seqs (t.state 0) table).2.1
    | .backward =>
      let last := t.states + 1
      let t := ((t.state 0).branches seqs.length).state 0
      (seqs.foldl (fun (t, table) seq => Sharing.readBackward last seq t table) (t, table)).1

-- A word that ends here parts those before it from those after it, which are not tried together.
def Tally.words : Nat → List (List UInt8) → Tally → Tally
  | 0, _, t => t
  | n + 1, words, t =>
    if words.all List.isEmpty then t
    else
      let runs :=
        match words with
        | [] :: rest => [] :: (rest.dropWhile List.isEmpty).splitOnP List.isEmpty
        | words => words.splitOnP List.isEmpty
      runs.foldl (fun t run =>
        match (run.filterMap List.head?).eraseDups with
        | [] => t
        | heads =>
          heads.foldl (fun t b =>
            Tally.words n (run.filterMap fun w => if w.head? = some b then some w.tail else none) t)
            ((t.branches 1).state (if heads.length = 1 then 0 else heads.length * rangeSize)))
        ((t.state 0).branches (runs.length - 1))

namespace Normal

def word? (d : Direction) : Normal → Option (List UInt8)
  | literal s => some (d.order (s.flatMap String.utf8EncodeChar))
  | _ => none

mutual

-- The state that chooses between alternatives, and the one where they meet, come after the first
-- two of them.
def tally (d : Direction) : Normal → Tally → Tally
  | empty, t | anchor _, t => t.state 0
  | literal s, t => t.times (·.state 0) (s.map Char.utf8Size).sum
  | set k, t => t.set d k
  | loop min max _ r, t => t.loop min max r.readsAlways (r.tally d)
  | group r, t => if d = .forward then (r.tally d (t.state 0)).state 0 else r.tally d t
  | cat rs, t => (d.order (tallies d rs)).foldl (fun t r => r t) t
  | alt rs, t =>
    match rs.mapM (word? d), tallies d rs with
    | some words, _ => (t.state 0).words ((words.map List.length).foldl max 0) words
    | none, r :: s :: rest =>
      rest.foldl (fun t r => r t) (((s (r t)).state 0).branches rs.length |>.state 0)
    | none, _ => t

def tallies (d : Direction) : List Normal → List (Tally → Tally)
  | [] => []
  | r :: rs => r.tally d :: tallies d rs

end

def fits (d : Direction) (r : Normal) : Bool :=
  let start : Tally := ⟨0, 0⟩
  let start := if r.pinned d then start.state 0 else start.fork.ranges 1
  !(((group r).tally d start).state 0).exceeds

end Normal

def nestingLimit : Nat := 250

def admissible (r : Regex) : Bool :=
  decide (r.nesting .other ≤ nestingLimit) &&
    r.groupNames.length == r.groupNames.eraseDups.length &&
    r.normal.fits .forward && r.normal.fits .backward

end Descent.Regex
