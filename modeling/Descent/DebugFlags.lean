import Descent.Text.Lines
import Descent.Text.Lowercase

set_option autoImplicit false

namespace Descent

structure DebugFlags where
  trace : Bool := false
  errors : Bool := false
  deriving DecidableEq, Repr

namespace DebugFlags

def union (f g : DebugFlags) : DebugFlags := ⟨f.trace || g.trace, f.errors || g.errors⟩

def ofName (name : String) : DebugFlags :=
  if name = "trace" then { trace := true }
  else if name = "errors" then { errors := true }
  else if name = "all" then ⟨true, true⟩
  else {}

def parse (s : String) : DebugFlags :=
  ((s.splitOn ",").map fun part =>
    ofName (Text.toLower (String.ofList (Text.trim part.toList)))).foldl union {}

def bits (f : DebugFlags) : Nat := f.trace.toNat + 2 * f.errors.toNat

end DebugFlags

end Descent
