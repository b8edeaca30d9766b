import Descent.Notation.Function
import Descent.Notation.Handler
import Descent.Parser.Hook

set_option autoImplicit false

namespace Descent.Notation

def control? (sub : Sub) (head : String) (args : List Datum) : Build (Option Built) := do
  match head, args with
  | "atomize", [g] => return some ((← sub g).rebuild .atomize)
  | "lookahead", [n, g] => return some ((← sub g).rebuild (.lookahead n.nat))
  | "step", [n, g] => return some ((← sub g).rebuild (.stepBy n.nat))
  | "peek", [g] => return some ((← sub g).rebuild .peek)
  | "label", [l, g] => return some ((← sub g).rebuild (.label l.str))
  | "rename", [n, g] => return some ((← sub g).rebuild (Parser.rename n.str))
  | "is_consumed", [m, g] => return some ((← sub g).rebuild (.isConsumed m.str))
  | "not_consumed", [m, g] => return some ((← sub g).rebuild (.notConsumed m.str))
  | "not", [g] =>
    let x ← sub g
    return some <| .unit (Parser.not x.parser)
  | "not_with", [l, g] =>
    let x ← sub g
    return some <| .unit (Parser.notWith l.str x.parser)
  | "optional", [g] =>
    let p ← sub.base g
    return some ⟨.option .base, Parser.optional p⟩
  | "option", [v, g] =>
    let p ← sub.base g
    return some <| .base (Parser.option (a := .base) v.value p)
  | "if_else", [c, y, n] =>
    let c ← sub.base c
    let y ← sub.base y
    let n ← sub.base n
    return some <| .base (.ifElse c (fun _ => y) n)
  | "if_else_ret", [c, n] =>
    let c ← sub.base c
    let n ← sub.base n
    return some <| .base (.ifElse c (fun v => .ret (a := .base) (.list [.text "yes", v])) n)
  | "is_return", [k, l, g] =>
    let p ← sub.base g
    let l := match l with
      | .text l => some l
      | _ => none
    return some <| .base (Parser.isReturn (a := .base) k.check l p)
  | "try_map", [k, g] =>
    let p ← sub.base g
    let message := ((k.get? "message").map Datum.str).getD "rejected"
    let index := (k.get? "at").bind Datum.nat?
    return some <| .base (.tryMap (a := .base) (b := .base)
      (fun v => if k.check v then .ok v else .error ⟨message, index⟩) p)
  | "catch", [g, rules] =>
    let x ← sub g
    let rules ← rules.elems.mapM (catchRule sub x.ty)
    return some ⟨x.ty, .tryCatch x.parser (CatchRule.handle rules) (CatchRule.resume rules)⟩
  | "between", [o, c, g] =>
    let o ← sub.base o
    let c ← sub.base c
    return some ((← sub g).rebuild (Parser.between o c))
  | _, _ => return none

def hook? (sub : Sub) (head : String) (args : List Datum) : Build (Option Built) := do
  match head, args with
  | "trace", [tag, g] =>
    let x ← sub g
    return some ⟨x.ty, Parser.trace (fun e => [e.toNote tag.str none]) x.parser⟩
  | "on_error", [tag, g] =>
    let x ← sub g
    return some ⟨x.ty, Parser.onError (fun e => [e.toNote tag.str none]) x.parser⟩
  | "on_success", [tag, g] =>
    let x ← sub g
    return some ⟨x.ty, Parser.onSuccess
      (fun v e => [e.toNote tag.str (some (Value.ofResult x.ty v))]) x.parser⟩
  | "print_error", [n, steps, g] =>
    return some ((← sub g).rebuild (Parser.printError n.str steps.nat))
  | "print_result", [n, g] =>
    let p ← sub.base g
    return some <| .base (Parser.printResult (a := .base) n.str Value.render p)
  | "print_trace", [n, g] =>
    let p ← sub.base g
    return some <| .base (Parser.printTrace (a := .base) n.str Value.render p)
  | _, _ => return none

end Descent.Notation
