import Descent.Text.Bytes

set_option autoImplicit false

namespace Descent

structure Position where
  line : Nat
  column : Nat
  deriving DecidableEq, Repr

namespace Position

def limit : Nat := Nat.pow 2 32 - 1

def advance (start steps : Nat) : Nat := min (start + steps) limit

def render (p : Position) : String := s!"line {p.line}, column {p.column}"

end Position

def occurrences (c : Char) (first : Nat) : List Char → List Nat
  | [] => []
  | d :: s =>
    let rest := occurrences c (first + d.utf8Size) s
    if d = c then first :: rest else rest

def startsBefore (first stop : Nat) : List Char → Nat
  | [] => 0
  | c :: s => if first < stop then startsBefore (first + c.utf8Size) stop s + 1 else 0

structure LineMap where
  source : List Char
  startLine : Nat
  startColumn : Nat
  breakSize : Nat
  breaks : List Nat

namespace LineMap

def ofSource (source : List Char) (startLine : Nat := 1) (startColumn : Nat := 1)
    (lineBreak : Char := '\n') : LineMap where
  source := source
  startLine := startLine
  startColumn := startColumn
  breakSize := lineBreak.utf8Size
  breaks := occurrences lineBreak 0 source

def lineCount (m : LineMap) : Nat := m.breaks.length + 1

def position (m : LineMap) (offset : Nat) : Position :=
  let stop := min offset (Text.size m.source)
  let earlier := m.breaks.takeWhile (· < stop)
  let (lineStart, column) :=
    match earlier.getLast? with
    | none => (0, m.startColumn)
    | some b => (b + m.breakSize, 1)
  let line := (Text.drop? lineStart m.source).getD []
  { line := Position.advance m.startLine earlier.length
    column := Position.advance column (startsBefore lineStart stop line) }

end LineMap

inductive PositionMap where
  | fixed (p : Position)
  | lines (m : LineMap)

namespace PositionMap

def position : PositionMap → Nat → Position
  | fixed p, _ => p
  | lines m, offset => m.position offset

def ofSource (source : List Char) : PositionMap := lines (LineMap.ofSource source)

end PositionMap

end Descent
