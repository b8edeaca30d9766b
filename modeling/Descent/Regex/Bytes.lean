import Descent.Regex.Span

set_option autoImplicit false

namespace Descent.Regex

abbrev ByteRange := UInt8 × UInt8

def byteZones : List (Nat × Nat) :=
  [(0, 0x7f), (0x80, 0x7ff), (0x800, 0xd7ff), (0xe000, 0xffff), (0x10000, 0x10ffff)]

-- Each piece lies in a block or consists of whole blocks, first of the given size, then of 64
-- times that size, as often as the first argument says.
def blocks : Nat → Nat → Nat → Nat → List (Nat × Nat)
  | 0, _, lo, hi => [(lo, hi)]
  | n + 1, size, lo, hi =>
    if lo / size = hi / size then [(lo, hi)]
    else
      let first := (lo + size - 1) / size * size
      let last := (hi + 1) / size * size
      (if lo < first then [(lo, first - 1)] else []) ++
        (if first < last then blocks n (64 * size) first (last - 1) else []) ++
        (if last ≤ hi then [(last, hi)] else [])

def encode (code : Nat) : List UInt8 := String.utf8EncodeChar (Char.ofNat code)

def Span.byteRanges (s : Span) : List (List ByteRange) :=
  byteZones.flatMap fun (first, last) =>
    let lo := max first s.lo.toNat
    let hi := min last s.hi.toNat
    if hi < lo then []
    else if hi < 0x80 then [[(lo.toUInt8, hi.toUInt8)]]
    else (blocks 3 64 lo hi).map fun (lo, hi) => (encode lo).zip (encode hi)

def Spans.byteRanges (k : Spans) : List (List ByteRange) := k.flatMap Span.byteRanges

def Spans.isAscii (k : Spans) : Bool := k.all fun s => decide (s.hi.toNat < 0x80)

def byHead (seqs : List (List ByteRange)) : List (ByteRange × List (List ByteRange)) :=
  (seqs.splitBy fun a b => a.head? == b.head?).filterMap fun group =>
    group.head?.bind fun seq => seq.head?.map fun range => (range, group.map List.tail)

end Descent.Regex
