import Descent.Diagnostic.Detail

set_option autoImplicit false

namespace Descent

inductive ExceptionKind where
  | mismatch
  | user
  | internal
  deriving DecidableEq, Repr

structure Frame where
  origin : String
  index : Nat
  position : Position
  parser : String
  deriving DecidableEq, Repr

def Frame.render (f : Frame) : String :=
  f.origin ++ " - " ++ f.position.render ++ ": " ++ f.parser

structure Exception where
  kind : ExceptionKind
  text : String
  detail : Option Detail
  origin : String
  position : Position
  frames : List Frame
  deriving DecidableEq, Repr

namespace Exception

def make (kind : ExceptionKind) (message : Option String) (detail : Option Detail)
    (origin : String) (position : Position) : Exception where
  kind := kind
  text :=
    (match message with
      | some m => m ++ "\n"
      | none => "") ++
    origin ++ " - " ++
    (match detail with
      | some d => d.render position
      | none => position.render ++ ":\n")
  detail := detail
  origin := origin
  position := position
  frames := []

def addFrame (e : Exception) (f : Frame) : Exception := { e with frames := e.frames ++ [f] }

def report (e : Exception) : String :=
  let text := "error: " ++ e.text
  let text := if text.endsWith "\n" then text else text ++ "\n"
  if e.kind = .internal ∧ e.frames ≠ [] then
    text ++ "parser frames:\n" ++ String.join (e.frames.map fun f => f.render ++ "\n")
  else text

end Exception

end Descent
