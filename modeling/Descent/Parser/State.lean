import Descent.Diagnostic.Basic
import Descent.Parser.Reply
import Descent.Text.Escaped
import Std.Data.TreeMap

set_option autoImplicit false

namespace Descent

def endMarker : String := "<EOF>"

structure Window where
  source : List Char
  stop : Nat
  /-- For each offset what follows it up to `stop`; nothing if `stop` is inside a character. -/
  tails : Array (Option (List Char))
  tails_eq : ∀ n : Nat, tails[n]?.join = Text.slice? source n stop

namespace Window

def make (source : List Char) (stop : Nat) : Window :=
  let stop := min stop (Text.size source)
  { source := source
    stop := stop
    tails :=
      match Text.take? stop source with
      | some s => Text.tailTable s
      | none => #[]
    tails_eq := fun n => by
      rw [Text.slice?_eq_bind]
      cases Text.take? stop source with
      | none => simp
      | some s => exact Text.getElem?_tailTable s n }

-- Nothing if the offset is inside a character or past the end.
def rest? (w : Window) (offset : Nat) : Option (List Char) := w.tails[offset]?.join

theorem rest?_eq_slice? (w : Window) (offset : Nat) :
    w.rest? offset = Text.slice? w.source offset w.stop :=
  w.tails_eq offset

def rest (w : Window) (offset : Nat) : List Char := (w.rest? offset).getD []

end Window

structure TokenRun where
  source : List Char
  lexemes : Array Lexeme
  /-- The offset of the source that stands for the end of the tokens. -/
  endIndex : Nat
  eofTitle : String
  render : Token → String

inductive Input where
  | chars (w : Window)
  | tokens (t : TokenRun)

structure Env where
  input : Input
  origin : String
  positions : PositionMap

structure Cursor where
  offset : Nat
  /-- The steps taken, however many: the counter of a context, as long as it does not overflow. -/
  steps : Nat
  deriving DecidableEq, Repr

namespace Cursor

def start : Cursor := ⟨0, 0⟩

/-- The counter, which is a word of 64 bits. -/
def step (c : Cursor) : Nat := c.steps % UInt64.size

def movedFrom (d c : Cursor) : Bool := d.offset != c.offset

def stepsFrom (d c : Cursor) : Nat := d.steps - c.steps

/-- The cursor has moved and taken `lookahead` steps, which is too far to go back. -/
def committedFrom (d c : Cursor) (lookahead : Nat) : Bool :=
  d.movedFrom c && decide (lookahead ≤ d.stepsFrom c)

end Cursor

inductive Note (β : Type) where
  | traced (tag : String) (ok raised : Bool) (index steps offset : Nat) (leading : String)
      (value : Option β)
  | caught (payload : Payload) (collected : Option β)
  | message (text parser near : String) (steps offset : Nat)

structure State (β : Type) where
  cursor : Cursor
  error : Option Diagnostic
  seen : Option (Std.TreeMap Nat Diagnostic)
  nextId : Nat
  journal : List (Note β)

structure Outcome (β : Type) (a : Ty) where
  reply : Reply β a
  state : State β

namespace Env

def ofText (source : List Char) (origin : String) (positions : PositionMap) : Env :=
  ⟨.chars (Window.make source (Text.size source)), origin, positions⟩

def ofRange (source : List Char) (stop : Nat) (origin : String) (positions : PositionMap) : Env :=
  ⟨.chars (Window.make source stop), origin, positions⟩

def ofTokens (run : TokenRun) (origin : String) (positions : PositionMap) : Env :=
  ⟨.tokens run, origin, positions⟩

def index (env : Env) (offset : Nat) : Nat :=
  match env.input with
  | .chars _ => offset
  | .tokens t =>
    match t.lexemes[offset]? with
    | some l => l.index
    | none => t.endIndex

def stop (env : Env) : Nat :=
  match env.input with
  | .chars w => w.stop
  | .tokens t => t.lexemes.size

def atEnd (env : Env) (offset : Nat) : Bool := decide (env.stop ≤ offset)

def text (env : Env) : List Char :=
  match env.input with
  | .chars w => w.source
  | .tokens t => t.source

def blankSeen (env : Env) : Option (Std.TreeMap Nat Diagnostic) :=
  match env.input with
  | .chars _ => none
  | .tokens _ => some ∅

def stateAt {β : Type} (env : Env) (cursor : Cursor) : State β :=
  ⟨cursor, none, env.blankSeen, 0, []⟩

def fault (env : Env) (offset : Nat) (message : String) : Exception :=
  Exception.make .internal (some message) none env.origin
    (env.positions.position (env.index offset))

def window (env : Env) (offset : Nat) : Except Exception Window :=
  match env.input with
  | .chars w => .ok w
  | .tokens _ => .error (env.fault offset "char input requested from a token context")

def rest (env : Env) (offset : Nat) : Except Exception (List Char) :=
  (env.window offset).map (·.rest offset)

def char? (env : Env) (offset : Nat) : Except Exception (Option Char) :=
  (env.rest offset).map List.head?

def lexeme? (env : Env) (offset : Nat) : Except Exception (Option Lexeme) :=
  match env.input with
  | .tokens t => .ok t.lexemes[offset]?
  | .chars _ => .error (env.fault offset "token input requested from a char context")

end Env

namespace State

variable {β : Type}

def offset (s : State β) : Nat := s.cursor.offset

def steps (s : State β) : Nat := s.cursor.steps

def step (s : State β) : Nat := s.cursor.step

def restore (s : State β) (cursor : Cursor) : State β := { s with cursor := cursor }

def setStep (s : State β) (n : Nat) : State β :=
  { s with cursor := { s.cursor with steps := n } }

def skip (s : State β) (n : Nat) : State β :=
  { s with cursor := ⟨s.cursor.offset + n, if n = 0 then s.cursor.steps else s.cursor.steps + 1⟩ }

def next (env : Env) (s : State β) : State β :=
  let width :=
    match env.input with
    | .chars w =>
      match w.rest s.offset with
      | [] => 0
      | c :: _ => c.utf8Size
    | .tokens _ => 1
  { s with cursor := ⟨s.cursor.offset + width, s.cursor.steps + 1⟩ }

def setError (s : State β) (error : Option Diagnostic) : State β := { s with error := error }

def complain (s : State β) (make : Nat → Diagnostic) : State β :=
  { s with error := some (make s.nextId), nextId := s.nextId + 1 }

def mergeError (s : State β) (earlier : Option Diagnostic) : State β :=
  { s with error := Diagnostic.merge? s.nextId earlier s.error, nextId := s.nextId + 1 }

def note (s : State β) (notes : List (Note β)) : State β :=
  { s with journal := notes.reverse ++ s.journal }

-- Over tokens the answer is kept, and given again.
def encountered (env : Env) (s : State β) : Diagnostic × State β :=
  let index := env.index s.offset
  match env.input with
  | .chars w =>
    let what := match w.rest s.offset with
      | [] => endMarker
      | c :: _ => Text.escapeBare c
    (Diagnostic.encountered s.nextId index what, { s with nextId := s.nextId + 1 })
  | .tokens t =>
    -- All places past the last token share one slot.
    let slot := min s.offset t.lexemes.size
    match s.seen.bind (·[slot]?) with
    | some d => (d, s)
    | none =>
      let what := match t.lexemes[slot]? with
        | some l => t.render l.token
        | none => t.eofTitle
      let d := Diagnostic.encountered s.nextId index what
      (d, { s with nextId := s.nextId + 1, seen := s.seen.map (·.insert slot d) })

end State

inductive Rejection where
  | silent
  | expecting (label : String)
  | unexpected (label : String)
  | message (text : String)
  | encountered
  | instead (label : String)
  deriving DecidableEq, Repr

def State.reject {β : Type} (env : Env) (s : State β) : Rejection → State β
  | .silent => s.setError none
  | .expecting label => s.complain fun id => Diagnostic.expecting id (env.index s.offset) label
  | .unexpected label => s.complain fun id => Diagnostic.unexpected id (env.index s.offset) label
  | .message text => s.complain fun id => Diagnostic.message id (env.index s.offset) text
  | .encountered =>
    let (d, s) := s.encountered env
    s.setError (some d)
  | .instead label =>
    let (d, s) := s.encountered env
    s.complain fun id => d.relabel id label

end Descent
