import Descent.Parser.Basic

/-!
The lookahead says how many steps a branch must take before an alternation no longer goes back. Only
alternations and the constructs that hand it on to one use it; all others run their parts with a
lookahead of one.
-/

set_option autoImplicit false

namespace Descent

abbrev Action (β : Type) (a : Ty) := Env → Nat → State β → Outcome β a

abbrev Calls (β : Type) := String → Action β .base

namespace Action

variable {β : Type} {a b : Ty}

def defaultLookahead : Nat := 1

def ok (v : a.Value β) (s : State β) : Outcome β a := ⟨.ok v, s⟩

def fail (s : State β) : Outcome β a := ⟨.error .fail, s⟩

def faulty (e : Exception) (s : State β) : Outcome β a := ⟨.error (.fault e), s⟩

def run (x : Action β a) (env : Env) (s : State β) : Outcome β a := x env defaultLookahead s

def ret (v : a.Value β) : Action β a := fun _ _ s => ok v s

def reject (why : Rejection) : Action β a := fun env _ s => fail (s.reject env why)

def raise (key : Key) : Action β a := fun _ _ s => ⟨.error (.signal ⟨key, none⟩), s⟩

def abort (message : String) : Action β a := fun env _ s =>
  ⟨.error (.user ⟨message, some (env.index s.offset)⟩), s⟩

def fault (message : String) : Action β a := fun env _ s =>
  faulty (env.fault s.offset message) s

def getIndex : Action β .nat := fun env _ s => ok (a := .nat) (env.index s.offset) s

def eof (label : String) : Action β .unit := fun env _ s =>
  if env.atEnd s.offset then ok (a := .unit) () s else fail (s.reject env (.instead label))

def token (f : Lexeme → Option (a.Value β)) : Action β a := fun env _ s =>
  match env.lexeme? s.offset with
  | .error e => faulty e s
  | .ok l =>
    match l.bind f with
    | some v => ok v (s.next env)
    | none => fail (s.reject env .encountered)

def char (k : CharClass) (f : Char → a.Value β) : Action β a := fun env _ s =>
  match env.char? s.offset with
  | .error e => faulty e s
  | .ok c =>
    match c.filter k.test with
    | some c => ok (f c) (s.next env)
    | none => fail (s.reject env (.instead k.label))

def pattern (p : Pattern) (label : String) : Action β .unit := fun env _ s =>
  match env.window s.offset with
  | .error e => faulty e s
  | .ok w =>
    match (w.rest? s.offset).bind p.run with
    | some n => ok (a := .unit) () (s.skip n)
    | none => fail (s.reject env (.instead label))

def andThen (o : Outcome β a) (f : a.Value β → State β → Outcome β b) : Outcome β b :=
  match o with
  | ⟨.ok v, s⟩ => f v s
  | ⟨.error e, s⟩ => ⟨.error e, s⟩

def orElse (o : Outcome β a) (f : State β → Outcome β a) : Outcome β a :=
  match o with
  | ⟨.error .fail, s⟩ => f s
  | o => o

def matched (x : Action β a) : Action β .text := fun env _ s =>
  andThen (x.run env s) fun _ t =>
    match env.window t.offset with
    | .error e => faulty e t
    | .ok w =>
      ok (a := .text) (String.ofList ((Text.slice? w.source s.offset t.offset).getD [])) t

def bind (x : Action β a) (f : a.Value β → Action β b) : Action β b := fun env _ s =>
  andThen (x.run env s) fun v t => (f v).run env t

def atomize (x : Action β a) : Action β a := fun env _ s =>
  match x.run env s with
  | ⟨.ok v, t⟩ => ok v (t.setStep (s.steps + 1))
  | ⟨.error e, t⟩ => ⟨.error e, t.restore s.cursor⟩

def lookahead (n : Nat) (x : Action β a) : Action β a := fun env _ s => x env n s

def stepBy (n : Nat) (x : Action β a) : Action β a := fun env _ s =>
  andThen (x.run env s) fun v t => ok v (t.setStep (s.steps + n))

def peek (x : Action β a) : Action β a := fun env _ s =>
  let o := x.run env s
  ⟨o.reply, o.state.restore s.cursor⟩

def relabelError (l : String) (env : Env) (s : State β) : State β :=
  match s.error with
  | some d => s.complain fun id => d.relabel id l
  | none => s.reject env (.expecting l)

def label (l : String) (x : Action β a) : Action β a := fun env n s =>
  orElse (x env n s) fun t =>
    if t.cursor.movedFrom s.cursor then fail t else fail (relabelError l env t)

def isConsumed (message : String) (x : Action β a) : Action β a := fun env _ s =>
  andThen (x.run env s) fun v t =>
    if t.cursor.movedFrom s.cursor then ok v t else fail (t.reject env (.message message))

def notConsumed (message : String) (x : Action β a) : Action β a := fun env _ s =>
  andThen (x.run env s) fun v t =>
    if t.cursor.movedFrom s.cursor then
      fail ((t.restore s.cursor).reject env (.message message))
    else ok v t

def test (check : a.Value β → Bool) (label : Option String) (x : Action β a) : Action β a :=
  fun env _ s =>
    andThen (x.run env s) fun v t =>
      if check v then ok v t
      else
        fail ((t.restore s.cursor).reject env
          (match label with
            | some l => .expecting l
            | none => .silent))

def ifElse (x : Action β a) (yes : a.Value β → Action β b) (no : Action β b) : Action β b :=
  fun env n s =>
    match x.run env s with
    | ⟨.ok v, t⟩ => (yes v).run env t
    | ⟨.error .fail, t⟩ =>
      if t.cursor.committedFrom s.cursor n then fail t
      else
        match no.run env ((t.restore s.cursor).setError none) with
        | ⟨.ok v, u⟩ => ok v (u.setError t.error)
        | ⟨.error .fail, u⟩ => fail (u.mergeError t.error)
        | o => o
    | ⟨.error e, t⟩ => ⟨.error e, t⟩

def tryCatch (x : Action β a) (handler : Option (a.Value β) → Key → Handling β (a.Value β))
    (resume : Option (a.Value β) → Key → Action β a) : Action β a := fun env _ s =>
  match x.run env s with
  | ⟨.error (.signal sig), t⟩ =>
    let collected := sig.collected.bind (Typed.at? a)
    let kept := if collected.isSome then none else sig.collected
    let h := handler collected sig.key
    let t := t.note h.notes
    match h.recovery with
    | .value v => ok v (t.setError s.error)
    | .resume => (resume collected sig.key).run env (t.setError s.error)
    | .propagate left =>
      ⟨.error (.signal ⟨sig.key, (left.map (Typed.mk a)).or kept⟩), t⟩
  | o => o

def tryMap (f : a.Value β → Except UserError (b.Value β)) (x : Action β a) : Action β b :=
  fun env _ s =>
    andThen (x.run env s) fun v t =>
      match f v with
      | .ok w => ok w t
      | .error e => ⟨.error (.user { e with index := e.index.or (some (env.index s.offset)) }), t⟩

/-- Tries the branches in order from `start`, and goes on after a failure unless that took `n`
steps. -/
def sumFrom (env : Env) (n : Nat) (start : Cursor) : List (Action β a) → State β → Outcome β a
  | [], s => fail s
  | x :: xs, s =>
    orElse (x.run env s) fun t =>
      if t.cursor.committedFrom start n then fail t
      else sumFrom env n start xs ((t.mergeError s.error).restore start)

def sum (xs : List (Action β a)) : Action β a := fun env n s => sumFrom env n s.cursor xs s

def favoredRest (p : Preference) (env : Env) (start : Cursor) :
    List (Action β a) → a.Value β → Cursor → State β → Outcome β a
  | [], v, best, s => ok v (s.restore best)
  | x :: xs, v, best, s =>
    match x.run env (s.restore start) with
    | ⟨.ok w, t⟩ =>
      if p.prefers t.offset best.offset then favoredRest p env start xs w t.cursor t
      else favoredRest p env start xs v best t
    | ⟨.error .fail, t⟩ => favoredRest p env start xs v best t
    | o => o

def favoredFrom (p : Preference) (env : Env) (start : Cursor) :
    List (Action β a) → Option Diagnostic → State β → Outcome β a
  | [], error, s => fail (s.setError error)
  | x :: xs, error, s =>
    match x.run env s with
    | ⟨.ok v, t⟩ => favoredRest p env start xs v t.cursor t
    | ⟨.error .fail, t⟩ =>
      let merged := t.mergeError error
      favoredFrom p env start xs merged.error ((merged.setError none).restore start)
    | o => o

def favored (p : Preference) (xs : List (Action β a)) : Action β a := fun env _ s =>
  favoredFrom p env s.cursor xs none s

-- The first argument bounds the rounds. `values` holds the values so far, the last one first.
def loopFrom (x : Action β a) (min : Nat) (max : Option Nat)
    (finish : List (a.Value β) → b.Value β) (env : Env) :
    Nat → Nat → List (a.Value β) → State β → Outcome β b
  | 0, _, _, s => ⟨.error .exhausted, s⟩
  | fuel + 1, count, values, s =>
    if max = some count then ok (finish values.reverse) s
    else
      match x.run env s with
      | ⟨.ok v, t⟩ =>
        if decide (min ≤ count) && !t.cursor.movedFrom s.cursor then
          ok (finish values.reverse) t
        else loopFrom x min max finish env fuel (count + 1) (v :: values) t
      | ⟨.error .fail, t⟩ =>
        if decide (count < min) || t.cursor.movedFrom s.cursor then fail t
        else ok (finish values.reverse) (t.restore s.cursor)
      | ⟨.error (.signal sig), t⟩ =>
        ⟨.error (.signal ⟨sig.key, some ⟨b, finish values.reverse⟩⟩), t⟩
      | ⟨.error e, t⟩ => ⟨.error e, t⟩

def loop (x : Action β a) (min : Nat) (max : Option Nat)
    (finish : List (a.Value β) → b.Value β) : Action β b := fun env _ s =>
  loopFrom x min max finish env (min + (env.stop - s.offset) + 2) 0 [] s

-- The body of a comment at a depth of `level`, up to the end of the outermost one.
def nestedFrom (opening closing body : Action β .unit) (env : Env) :
    Nat → Nat → State β → Outcome β .unit
  | _, 0, s => ok (a := .unit) () s
  | 0, _ + 1, s => ⟨.error .exhausted, s⟩
  | fuel + 1, level + 1, s =>
    match closing.run env s with
    | ⟨.ok _, t⟩ =>
      if t.cursor.movedFrom s.cursor then nestedFrom opening closing body env fuel level t
      else faulty (env.fault t.offset "closing comment scanner not consuming input") t
    | ⟨.error e, t⟩ =>
      if e.isFail && !t.cursor.movedFrom s.cursor then
        match opening.run env t with
        | ⟨.ok _, u⟩ =>
          if u.cursor.movedFrom s.cursor then
            nestedFrom opening closing body env fuel (level + 2) u
          else faulty (env.fault u.offset "opening comment scanner not consuming input") u
        | ⟨.error e, u⟩ =>
          if e.isFail && !u.cursor.movedFrom s.cursor then
            andThen (body.run env u) fun _ v =>
              if v.cursor.movedFrom s.cursor then
                nestedFrom opening closing body env fuel (level + 1) v
              else faulty (env.fault v.offset "commented scanner not consuming input") v
          else ⟨.error e, u⟩
      else ⟨.error e, t⟩

def nested (opening closing body : Action β .unit) : Action β .unit := fun env _ s =>
  andThen (opening.run env s) fun _ t =>
    nestedFrom opening closing body env (env.stop - t.offset + 2) 1 t

def lex (x : Action β a) (reader : TokenReader) : Action β .lexeme := fun env _ s =>
  andThen (x.run env s) fun _ t =>
    match env.window t.offset with
    | .error e => faulty e t
    | .ok w =>
      let length := t.offset - s.offset
      match reader w.source s.offset length with
      | .error e => faulty (env.fault t.offset e.message) t
      | .ok token => ok (a := .lexeme) ⟨s.offset, length, token⟩ (t.setStep (s.steps + 1))

/-- Runs an action over an input of its own. Its steps count, and an ordinary failure moves the
cursor to where it failed. -/
def inside (x : Action β a) (inner : Env) (first : Nat) (s : State β) : Outcome β a :=
  let o := x.run inner
    { cursor := ⟨first, 0⟩, error := none, seen := inner.blankSeen,
      nextId := s.nextId, journal := s.journal }
  let t := { s with nextId := o.state.nextId, journal := o.state.journal }
  match o.reply with
  | .ok v => ok v (t.setStep (t.steps + o.state.steps))
  | .error .fail =>
    fail { t with
      cursor := { t.cursor with offset := inner.index o.state.offset }
      error := o.state.error }
  | .error e => ⟨.error e, t⟩

def parseTokens (lexer : Action β (.list .lexeme)) (grammar : Action β a) (eofTitle : String)
    (render : Token → String) (origin : String) : Action β a := fun env _ s =>
  andThen (lexer.run env s) fun (lexemes : List Lexeme) t =>
    match env.window t.offset with
    | .error e => faulty e t
    | .ok w =>
      let run : TokenRun :=
        { source := w.source, lexemes := lexemes.toArray, endIndex := env.index t.offset
          eofTitle := eofTitle, render := render }
      inside grammar (Env.ofTokens run origin env.positions) 0 t

def scanChars (outer : Action β a) (inner : Action β b) (origin : String) : Action β b :=
  fun env _ s =>
    andThen (outer.run env s) fun _ t =>
      match env.window t.offset with
      | .error e => faulty e t
      | .ok w => inside inner (Env.ofRange w.source t.offset origin env.positions) s.offset t

def traced (x : Action β a) (hook : TraceEvent β a → List (Note β)) : Action β a := fun env n s =>
  let o := x env n s
  let event : TraceEvent β a :=
    { reply := o.reply
      source := env.text
      index := env.index o.state.offset
      steps := o.state.cursor.stepsFrom s.cursor
      offset := o.state.offset - s.offset }
  ⟨o.reply, o.state.note (hook event)⟩

def lazy (make : Unit → Action β a) : Action β a := fun env n s => make () env n s

def named (name : String) (x : Action β a) : Action β a := fun env n s =>
  match x env n s with
  | ⟨.error (.fault e), t⟩ =>
    let index := env.index t.offset
    faulty (e.addFrame ⟨env.origin, index, env.positions.position index, name⟩) t
  | o => o

end Action

end Descent
