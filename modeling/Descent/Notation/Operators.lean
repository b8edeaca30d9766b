import Descent.Notation.Build
import Descent.Operator.Table

set_option autoImplicit false

namespace Descent.Notation

def operatorKind? : String → Option OperatorKind
  | "prefix" => some .before
  | "postfix" => some .after
  | "infixl" => some .leftAssoc
  | "infixr" => some .rightAssoc
  | "infixn" => some .nonAssoc
  | _ => none

def operatorValue (name : String) : (kind : OperatorKind) → kind.ty.Value Value
  | .before | .after => fun x => .list [.text name, x]
  | .leftAssoc | .rightAssoc | .nonAssoc => fun x y => .list [.text name, x, y]

def operatorParser (sub : Sub) (kind : OperatorKind) (g : Datum) (name : String) :
    Build (Parser Value kind.ty) := do
  let p ← sub.unit g
  return Parser.seqRight p (.ret (operatorValue name kind))

def levelOperator (sub : Sub) (kind : OperatorKind) (d : Datum) :
    Build (Parser Value kind.ty) := do
  match d.elems with
  | g :: name :: _ => operatorParser sub kind g name.str
  | _ => Build.malformed "operator"

def tableOperator (sub : Sub) (d : Datum) : Build (Operator Value) := do
  match d.elems with
  | [g, name, kind, precedence] =>
    match operatorKind? kind.str with
    | some kind =>
      let p ← operatorParser sub kind g name.str
      return ⟨kind, precedence.asInt, p⟩
    | none => Build.malformed "operator"
  | _ => Build.malformed "operator"

def expression? (sub : Sub) (head : String) (args : List Datum) : Build (Option Built) := do
  match head, args with
  | "expr", [t, ops] =>
    let term ← sub.base t
    let table : OperatorTable Value := ⟨← ops.elems.mapM (tableOperator sub)⟩
    modify fun b => { b with tables := b.tables ++ [table.size] }
    return some <| .base (table.expression term)
  | head, [ops, g] =>
    match operatorKind? head with
    | some kind =>
      let ps ← ops.elems.mapM (levelOperator sub kind)
      let p ← sub.base g
      return some <| .base (Level.wrap p ⟨kind, 0, ps⟩)
    | none => return none
  | _, _ => return none

end Descent.Notation
