import Descent.Calculator.Grammar
import Descent.Decimal.Shortest
import Descent.Text.Lines

set_option autoImplicit false

namespace Descent.Calculator

def evaluateLines (c : Calculator) (text : String) : List (Nat × Except Exception Float) :=
  ((Text.lines text.toList).zipIdx 1).filterMap fun (line, number) =>
    if (Text.trim line).isEmpty then Option.none
    else some (number, (c.run (String.ofList line)).result)

def renderResult : Except Exception Float → String
  | .ok x => Decimal.render x ++ "\n"
  | .error e => e.report

end Descent.Calculator
