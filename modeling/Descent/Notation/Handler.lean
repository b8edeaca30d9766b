import Descent.Notation.Build

set_option autoImplicit false

namespace Descent.Notation

inductive RuleAction (a : Ty) where
  | value (v : a.Value Value)
  | parser (p : Parser Value a)
  | collected
  | collectedOr (v : a.Value Value)
  | drop
  | propagate

structure CatchRule (a : Ty) where
  covers : Key → Bool
  action : RuleAction a

namespace CatchRule

variable {a : Ty}

def recovery (rules : List (CatchRule a)) (collected : Option (a.Value Value)) (key : Key) :
    Recovery (a.Value Value) :=
  match rules.find? (·.covers key) with
  | none => .propagate collected
  | some rule =>
    match rule.action, collected with
    | .value v, _ => .value v
    | .parser _, _ => .resume
    | .collected, some v => .value v
    | .collected, none => .propagate none
    | .collectedOr _, some v => .value v
    | .collectedOr v, none => .value v
    | .drop, _ => .propagate none
    | .propagate, _ => .propagate collected

def handle (rules : List (CatchRule a)) (collected : Option (a.Value Value)) (key : Key) :
    Handling Value (a.Value Value) :=
  ⟨recovery rules collected key, [.caught key.payload (collected.map (Value.ofResult a))]⟩

def resume (rules : List (CatchRule a)) (_ : Option (a.Value Value)) (key : Key) :
    Parser Value a :=
  match rules.find? (·.covers key) with
  | some ⟨_, .parser p⟩ => p
  | _ => Parser.zero

end CatchRule

def selector : Datum → Build (Key → Bool)
  | .text "*" => return fun _ => true
  | .text name => do
    let k ← Build.namedKey name
    return fun key => key.id = k.id
  | d => return fun key => key.payload = .number d.nat

def ruleAction (sub : Sub) (a : Ty) (name : String) (arg : Datum) : Build (RuleAction a) := do
  match name with
  | "value" => return .value (arg.result a)
  | "parser" =>
    let p ← (← sub arg).coerce a
    return .parser p
  | "partial" => return .collected
  | "partial_or" => return .collectedOr (arg.result a)
  | "drop" => return .drop
  | _ => return .propagate

def catchRule (sub : Sub) (a : Ty) (d : Datum) : Build (CatchRule a) := do
  match d.elems with
  | signals :: .text name :: args =>
    let covers ← selector signals
    let action ← ruleAction sub a name (args.headD .null)
    return ⟨covers, action⟩
  | _ => Build.malformed "rule"

end Descent.Notation
