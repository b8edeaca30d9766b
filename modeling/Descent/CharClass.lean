import Descent.Text.Escaped
import Descent.Text.Property

set_option autoImplicit false

namespace Descent

structure CharClass where
  label : String
  test : Char → Bool

namespace CharClass

def relabel (c : CharClass) (label : String) : CharClass := { c with label := label }

def compl (c : CharClass) : CharClass := ⟨"^" ++ c.label, fun x => !c.test x⟩

def inter (c d : CharClass) : CharClass :=
  ⟨c.label ++ " and " ++ d.label, fun x => c.test x && d.test x⟩

def union (c d : CharClass) : CharClass :=
  ⟨c.label ++ " or " ++ d.label, fun x => c.test x || d.test x⟩

def never : CharClass := ⟨"nothing", fun _ => false⟩

def always : CharClass := ⟨"any character", fun _ => true⟩

instance : Inhabited CharClass := ⟨never⟩

def single (c : Char) : CharClass := ⟨c.toString, fun x => x == c⟩

def except (c : Char) : CharClass := ⟨"^" ++ c.toString, fun x => x != c⟩

def rangeLabel (lo hi : Char) : String := "[" ++ lo.toString ++ "-" ++ hi.toString ++ "]"

def range (lo hi : Char) : CharClass :=
  ⟨rangeLabel lo hi, fun x => decide (lo ≤ x) && decide (x ≤ hi)⟩

def outside (lo hi : Char) : CharClass :=
  ⟨"^" ++ rangeLabel lo hi, fun x => !(decide (lo ≤ x) && decide (x ≤ hi))⟩

def listLabel (cs : List Char) : String :=
  "[" ++ String.intercalate "," (cs.map (·.toString)) ++ "]"

def oneOf (cs : List Char) : CharClass := ⟨listLabel cs, cs.contains⟩

def noneOf (cs : List Char) : CharClass := ⟨"^" ++ listLabel cs, fun x => !cs.contains x⟩

def digit : CharClass := (range '0' '9').relabel "digit"

def hexDigit : CharClass :=
  ⟨"hex digit", fun x => x.isDigit || ('a' ≤ x && x ≤ 'f') || ('A' ≤ x && x ≤ 'F')⟩

def uppercase : CharClass := ⟨"uppercase", Text.isUppercase⟩

def lowercase : CharClass := ⟨"lowercase", Text.isLowercase⟩

def blank : CharClass := ⟨"whitespace", Text.isBlank⟩

def alpha : CharClass := ⟨"alpha", Char.isAlpha⟩

def wordStart : CharClass := ⟨"alpha_", fun x => x == '_' || x.isAlpha⟩

def letter : CharClass := ⟨"letter", Text.isAlphabetic⟩

def wordPart : CharClass := ⟨"alphanumeric", fun x => x == '_' || x.isAlphanum⟩

theorem isAlpha_iff (c : Char) :
    c.isAlpha = true ↔ ('A' ≤ c ∧ c ≤ 'Z') ∨ ('a' ≤ c ∧ c ≤ 'z') := by
  change (decide ('A' ≤ c ∧ c ≤ 'Z') || (decide ('a' ≤ c) && decide (c ≤ 'z'))) = true ↔ _
  simp

theorem test_wordStart (c : Char) :
    wordStart.test c = true ↔ c = '_' ∨ ('A' ≤ c ∧ c ≤ 'Z') ∨ ('a' ≤ c ∧ c ≤ 'z') := by
  simp [wordStart, isAlpha_iff]

theorem test_wordPart (c : Char) :
    wordPart.test c = true ↔
      c = '_' ∨ (('A' ≤ c ∧ c ≤ 'Z') ∨ ('a' ≤ c ∧ c ≤ 'z')) ∨ ('0' ≤ c ∧ c ≤ '9') := by
  simp [wordPart, Char.isAlphanum, isAlpha_iff, Char.isDigit, Char.le_def]

def interAll : List CharClass → CharClass
  | [] => always
  | [c] => c
  | cs => ⟨String.intercalate " and " (cs.map label), fun x => cs.all (·.test x)⟩

def unionAll : List CharClass → CharClass
  | [] => never
  | [c] => c
  | cs => ⟨String.intercalate " or " (cs.map label), fun x => cs.any (·.test x)⟩

def describe (c : CharClass) : String := "CharPredicate(" ++ Text.quote c.label ++ ")"

end CharClass

end Descent
