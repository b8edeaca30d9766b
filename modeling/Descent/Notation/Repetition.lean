import Descent.Notation.Build

set_option autoImplicit false

namespace Descent.Notation

def Built.boundedListOf (x : Built)
    (f : {a : Ty} → Parser Value a → Except BoundsError (Parser Value (.list a))) :
    Build Built := do
  if h : x.ty = .lexeme then
    let p ← Build.ofBounds (f (h ▸ x.parser))
    return ⟨.list .lexeme, p⟩
  else
    let p ← Build.ofBounds (f x.toBase)
    return ⟨.list .base, p⟩

def repetition? (sub : Sub) (head : String) (args : List Datum) : Build (Option Built) := do
  match head, args with
  | "many", [g] => return some ((← sub g).listOf Parser.many)
  | "many_min", [n, g] => return some ((← sub g).listOf (Parser.manyMin n.nat))
  | "some", [n, g] => return some ((← sub g).listOf (Parser.upTo n.nat))
  | "some_range", [m, n, g] =>
    let x ← sub g
    some <$> x.boundedListOf (Parser.range m.nat n.nat)
  | "repeat", [n, g] => return some ((← sub g).listOf (Parser.times n.nat))
  | "sep_by", [g, s] =>
    let s ← sub s
    return some ((← sub g).listOf (Parser.sepBy s.parser))
  | "sep_by1", [g, s] =>
    let s ← sub s
    return some ((← sub g).listOf (Parser.sepBy1 s.parser))
  | "sep_end_by", [g, s] =>
    let s ← sub s
    return some ((← sub g).listOf (Parser.sepEndBy s.parser))
  | "sep_end_by1", [g, s] =>
    let s ← sub s
    return some ((← sub g).listOf (Parser.sepEndBy1 s.parser))
  | "end_by", [g, s] =>
    let s ← sub s
    return some ((← sub g).listOf (Parser.endBy s.parser))
  | "end_by1", [g, s] =>
    let s ← sub s
    return some ((← sub g).listOf (Parser.endBy1 s.parser))
  | _, _ => return none

def fold? (sub : Sub) (head : String) (args : List Datum) : Build (Option Built) := do
  match head, args with
  | "skip_many", [g] => return some <| .unit (Parser.skipMany (← sub g).parser)
  | "skip_some", [n, g] => return some <| .unit (Parser.skipUpTo n.nat (← sub g).parser)
  | "skip_repeat", [n, g] => return some <| .unit (Parser.skipTimes n.nat (← sub g).parser)
  | "skip_sep_by", [g, s] =>
    let s ← sub.base s
    return some <| .unit (Parser.skipSepBy s (← sub.base g))
  | "skip_sep_by1", [g, s] =>
    let s ← sub.base s
    return some <| .unit (Parser.skipSepBy1 s (← sub.base g))
  | "skip_sep_end_by", [g, s] =>
    let s ← sub.base s
    return some <| .unit (Parser.skipSepEndBy s (← sub.base g))
  | "skip_sep_end_by1", [g, s] =>
    let s ← sub.base s
    return some <| .unit (Parser.skipSepEndBy1 s (← sub.base g))
  | "skip_end_by", [g, s] =>
    let s ← sub.base s
    return some <| .unit (Parser.skipEndBy s (← sub.base g))
  | "skip_end_by1", [g, s] =>
    let s ← sub.base s
    return some <| .unit (Parser.skipEndBy1 s (← sub.base g))
  | "count_many", [n, g] => return some <| .nat (Parser.countMany n.nat (← sub g).parser)
  | "some_count", [m, n, g] =>
    let x ← sub g
    let p ← Build.ofBounds (Parser.countRange m.nat n.nat x.parser)
    return some <| .nat p
  | "fold_many", [n, g] =>
    let p ← sub.base g
    return some <| .base (Parser.manyWith (a := .base) (b := .base) n.nat
      (fun vs => vs.foldl (fun acc x => .list [acc, x]) .null) p)
  | _, _ => return none

end Descent.Notation
