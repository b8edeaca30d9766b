import Descent.Notation.Pattern
import Descent.Parser.Repetition

set_option autoImplicit false

namespace Descent.Notation

structure BuildState where
  keys : List (String × Key) := []
  nextKey : Nat := 0
  vocabulary : Option (Vocabulary Value) := none
  tables : List Nat := []

abbrev Build := StateT BuildState (Except NotationError)

namespace Build

def malformed {α : Type} (what : String) : Build α := throw (.malformed what)

def ofBounds {α : Type} (x : Except BoundsError α) : Build α :=
  match x with
  | .ok v => pure v
  | .error e => throw (.bounds e)

def ofVocabulary {α : Type} (x : Except VocabularyError α) : Build α :=
  match x with
  | .ok v => pure v
  | .error e => throw (.vocabulary e)

def vocabulary : Build (Vocabulary Value) := do
  match (← get).vocabulary with
  | some t => pure t
  | none => malformed "vocabulary"

def freshKey (payload : Payload) : Build Key :=
  modifyGet fun b => (⟨.given b.nextKey, payload⟩, { b with nextKey := b.nextKey + 1 })

def namedKey (name : String) : Build Key := do
  match (← get).keys.lookup name with
  | some k => pure k
  | none =>
    let k ← freshKey (.text name)
    modify fun b => { b with keys := (name, k) :: b.keys }
    pure k

end Build

structure Built where
  ty : Ty
  parser : Parser Value ty

namespace Built

def base (p : Parser Value .base) : Built := ⟨.base, p⟩

def unit (p : Parser Value .unit) : Built := ⟨.unit, p⟩

def nat (p : Parser Value .nat) : Built := ⟨.nat, p⟩

def lexeme (p : Parser Value .lexeme) : Built := ⟨.lexeme, p⟩

def toBase (x : Built) : Parser Value .base :=
  if h : x.ty = .base then h ▸ x.parser
  else Parser.map (b := .base) (Value.ofResult x.ty) x.parser

def toUnit (x : Built) : Parser Value .unit :=
  if h : x.ty = .unit then h ▸ x.parser else Parser.map (b := .unit) (fun _ => ()) x.parser

def at? (x : Built) (a : Ty) : Build (Parser Value a) :=
  if h : x.ty = a then pure (h ▸ x.parser) else Build.malformed "type"

def coerce (a : Ty) (x : Built) : Build (Parser Value a) :=
  if h : a = .base then pure (h ▸ x.toBase) else x.at? a

def rebuild (x : Built) (f : {a : Ty} → Parser Value a → Parser Value a) : Built :=
  ⟨x.ty, f x.parser⟩

def common : List Built → Ty
  | [] => .base
  | x :: xs => if xs.all (·.ty = x.ty) then x.ty else .base

def listOf (x : Built) (f : {a : Ty} → Parser Value a → Parser Value (.list a)) : Built :=
  if h : x.ty = .lexeme then ⟨.list .lexeme, f (h ▸ x.parser)⟩ else ⟨.list .base, f x.toBase⟩

end Built

abbrev Sub := Datum → Build Built

namespace Sub

def base (sub : Sub) (d : Datum) : Build (Parser Value .base) := return (← sub d).toBase

def unit (sub : Sub) (d : Datum) : Build (Parser Value .unit) := return (← sub d).toUnit

def typed (sub : Sub) (a : Ty) (d : Datum) : Build (Parser Value a) := do (← sub d).at? a

def together (sub : Sub) (ds : List Datum)
    (f : {a : Ty} → List (Parser Value a) → Parser Value a) : Build Built := do
  let xs ← ds.mapM sub
  let a := Built.common xs
  return ⟨a, f (← xs.mapM (Built.coerce a))⟩

end Sub

end Descent.Notation
