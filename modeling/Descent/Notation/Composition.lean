import Descent.Notation.Build
import Descent.Notation.Function
import Descent.Parser.Scanner

set_option autoImplicit false

namespace Descent.Notation

def composition? (sub : Sub) (head : String) (args : List Datum) : Build (Option Built) := do
  match head, args with
  | "text", [g] =>
    let p ← sub.unit g
    return some <| .base (Parser.map (b := .base) Value.text (.matched p))
  | "lazy", [g] =>
    let x ← sub g
    return some (x.rebuild fun p => .lazy fun _ => p)
  | "set_twice", [g, h] =>
    let p ← sub.base g
    let _ ← sub.base h
    return some <| .base (.lazy fun _ => p)
  | "bind", [g, table, other] =>
    let p ← sub.base g
    let entries ← table.entries.mapM fun (k, v) => do return (k, ← sub.base v)
    let other ← sub.base other
    return some <| .base (.bind (b := .base) p fun v => (entries.lookup v.flat).getD other)
  | "bind_same", [g] =>
    let p ← sub.base g
    return some <| .base (.bind (b := .base) p fun v =>
      let s := v.flat
      Parser.map (b := .base) (fun _ => .text s) (Scanner.string s))
  | "bind_repeat", [g, h] =>
    let p ← sub.base g
    let q ← sub.base h
    return some ⟨.list .base, .bind p fun v => Parser.times (min v.size.toNat 1000) q⟩
  | "then", [a, b] =>
    let x ← sub a
    let y ← sub b
    return some ⟨y.ty, Parser.seqRight x.parser y.parser⟩
  | "followed_by", [a, b] =>
    let x ← sub a
    let y ← sub b
    return some ⟨x.ty, Parser.seqLeft x.parser y.parser⟩
  | "and", [a, b] =>
    let p ← sub.base a
    let q ← sub.base b
    return some <| .base (Parser.both (c := .base) (fun v w => .list [v, w]) p q)
  | "map", [f, g] =>
    let p ← sub.base g
    return some <| .base (Parser.map (b := .base) f.function p)
  | "or", [a, b] => some <$> sub.together [a, b] Parser.plus
  | "bitor", [a, b] => some <$> sub.together [a, b] Parser.plus
  | "plus", [gs] => some <$> sub.together gs.elems Parser.plus
  | "longest", [gs] => some <$> sub.together gs.elems Parser.longest
  | "shortest", [gs] => some <$> sub.together gs.elems Parser.shortest
  | "sequence", [gs] =>
    let xs ← gs.elems.mapM sub
    let a := Built.common xs
    let a := if a = .unit ∨ a = .list .base then a else .base
    let ps ← xs.mapM (Built.coerce a)
    return some ⟨a, Parser.sequence (Datum.null.result a) ps⟩
  | "map_n", [gs] =>
    let ps ← gs.elems.mapM sub.base
    return some ⟨.list .base, Parser.collect ps⟩
  | _, _ => return none

end Descent.Notation
