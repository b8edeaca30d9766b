import Descent.Regex.CharSet
import Descent.Text.Word

set_option autoImplicit false

namespace Descent

namespace Regex

inductive Anchor where
  | start
  | stop
  | wordStart
  | wordEnd
  deriving DecidableEq, Repr

def Anchor.holds (before after : Option Char) : Anchor → Bool
  | start => before.isNone
  | stop => after.isNone
  | wordStart => !before.any Text.isWord && after.any Text.isWord
  | wordEnd => before.any Text.isWord && !after.any Text.isWord

inductive Group where
  | plain
  | numbered
  | named (name : String)
  deriving DecidableEq, Repr

def Group.name? : Group → Option String
  | named name => some name
  | _ => none

end Regex

inductive Regex where
  | empty
  | set (k : Regex.CharSet)
  | dot
  | anchor (a : Regex.Anchor)
  | cat (r s : Regex)
  | alt (r s : Regex)
  | loop (min : Nat) (max : Option Nat) (greedy : Bool) (r : Regex)
  | group (g : Regex.Group) (r : Regex)
  deriving Repr

namespace Regex

def literal (c : Char) : Regex := set (.single c)

def groupNames : Regex → List String
  | empty | set _ | dot | anchor _ => []
  | cat r s | alt r s => r.groupNames ++ s.groupNames
  | loop _ _ _ r => r.groupNames
  | group g r => g.name?.toList ++ r.groupNames

inductive Place where
  | sequence
  | alternatives
  | other
  deriving DecidableEq

def nesting (place : Place) : Regex → Nat
  | empty | dot | anchor _ => 0
  | set k => k.nesting false
  | cat r s =>
    (if place = .sequence then 0 else 1) + max (r.nesting .other) (s.nesting .sequence)
  | alt r s =>
    (if place = .alternatives then 0 else 1) + max (r.nesting .other) (s.nesting .alternatives)
  | loop _ _ _ r | group _ r => 1 + r.nesting .other

end Regex

end Descent
