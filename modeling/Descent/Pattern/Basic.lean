import Descent.CharClass
import Descent.Text.Bytes
import Descent.Text.Lowercase

/-!
A pattern never goes back: a repetition takes as much as it can, and an alternation keeps its first
alternative that matches. An open repetition ends at a mismatch, at an empty match, or at its upper
bound; the rounds that its lower bound asks for may match empty.
-/

set_option autoImplicit false

namespace Descent

structure BoundsError where
  min : Nat
  max : Nat
  deriving DecidableEq, Repr

namespace BoundsError

def message (e : BoundsError) : String := s!"min ({e.min}) > max ({e.max})"

def check (min max : Nat) : Except BoundsError Unit :=
  if max < min then .error ⟨min, max⟩ else .ok ()

end BoundsError

/-- The length of the match at the beginning of a text. -/
abbrev Matcher := List Char → Option Nat

def Matcher.Fits (m : Matcher) : Prop := ∀ s n, m s = some n → Text.IsBoundary s n

/-- The search for a regular expression, up to the end of its first match. -/
structure Search where
  find : Matcher
  fits : find.Fits

inductive Pattern where
  | atLeast (n : Nat)
  | exactly (n : Nat)
  | char (c : Char)
  | inClass (k : CharClass)
  | escaped
  | text (s : List Char)
  | textNoCase (s : List Char)
  | notText (s : List Char)
  | notTextNoCase (s : List Char)
  | regex (x : Search)
  | not (p : Pattern)
  | peek (p : Pattern)
  | optional (p : Pattern)
  | any (ps : List Pattern)
  | seq (ps : List Pattern)
  | all (ps : List Pattern)
  | longest (ps : List Pattern)
  | shortest (ps : List Pattern)
  | ifElse (cond yes no : Pattern)
  | timesClass (n : Nat) (k : CharClass)
  | times (n : Nat) (p : Pattern)
  | manyClass (min : Nat) (k : CharClass)
  | many (min : Nat) (p : Pattern)
  | boundedClass (min max : Nat) (k : CharClass)
  | bounded (min max : Nat) (p : Pattern)
  | never
  | always

namespace Matcher

def after (m : Matcher) (n : Nat) (s : List Char) : Option Nat := (Text.drop? n s).bind m

def firstChars : Nat → Matcher
  | 0, _ => some 0
  | _ + 1, [] => none
  | n + 1, c :: s => (firstChars n s).map (c.utf8Size + ·)

def charWhere (test : Char → Bool) : Matcher
  | [] => none
  | c :: _ => if test c then some c.utf8Size else none

def escaped : Matcher
  | '\\' :: c :: _ => some (1 + c.utf8Size)
  | _ => none

def text (t : List Char) : Matcher := fun s => if t.isPrefixOf s then some (Text.size t) else none

def textNoCase : List Char → Matcher
  | [], _ => some 0
  | _ :: _, [] => none
  | e :: t, c :: s =>
    if Text.lower c = Text.lower e then (textNoCase t s).map (c.utf8Size + ·) else none

def except (m : Matcher) : Matcher := fun s =>
  match m s with
  | some _ => none
  | none => charWhere (fun _ => true) s

def any : List Matcher → Matcher
  | [], _ => none
  | m :: ms, s =>
    match m s with
    | some n => some n
    | none => any ms s

def seq : List Matcher → Matcher
  | [], _ => some 0
  | m :: ms, s => do
    let n ← m s
    let rest ← after (seq ms) n s
    some (n + rest)

def all : List Matcher → Matcher
  | [], _ => some 0
  | m :: ms, s => do
    let n ← m s
    let rest ← all ms s
    some (max n rest)

def best (better : Nat → Nat → Bool) (ms : List Matcher) : Matcher := fun s =>
  (ms.filterMap (· s)).foldl (init? better) none
where
  init? (better : Nat → Nat → Bool) (sofar : Option Nat) (n : Nat) : Option Nat :=
    match sofar with
    | some m => if better n m then some n else some m
    | none => some n

def repeatWhere (test : Char → Bool) : Nat → Matcher
  | 0, _ => some 0
  | _ + 1, [] => none
  | n + 1, c :: s => if test c then (repeatWhere test n s).map (c.utf8Size + ·) else none

def spanWhere (test : Char → Bool) (limit : Option Nat) (s : List Char) : Nat :=
  let head := match limit with
    | some n => s.take n
    | none => s
  Text.size (head.takeWhile test)

def rounds (m : Matcher) : Nat → Nat → Matcher
  | 0, done, _ => some done
  | n + 1, done, s => do
    let k ← m s
    let rest ← Text.drop? k s
    rounds m n (done + k) rest

-- Rounds from `done` bytes on. The first argument bounds them; an empty one ends the count.
def greedy (m : Matcher) : List Char → Nat → List Char → Nat
  | [], done, _ => done
  | _ :: room, done, s =>
    match m s with
    | none | some 0 => done
    | some (k + 1) =>
      match Text.drop? (k + 1) s with
      | none => done + (k + 1)
      | some rest => greedy m room (done + (k + 1)) rest

-- Each open round takes a character, so there cannot be more of them than characters.
def repeated (m : Matcher) (min : Nat) (extra : Option Nat) : Matcher := fun s => do
  let head ← rounds m min 0 s
  let rest ← Text.drop? head s
  some (greedy m (match extra with | some n => rest.take n | none => rest) head rest)

def repeatedWhere (test : Char → Bool) (min : Nat) (extra : Option Nat) : Matcher := fun s => do
  let head ← repeatWhere test min s
  let rest ← Text.drop? head s
  some (head + spanWhere test extra rest)

end Matcher

namespace Pattern

mutual

def run : Pattern → Matcher
  | atLeast n => Matcher.firstChars n
  | exactly n => fun s => if s.length = n then some (Text.size s) else none
  | char c => Matcher.charWhere (· == c)
  | inClass k => Matcher.charWhere k.test
  | escaped => Matcher.escaped
  | text t => Matcher.text t
  | textNoCase t => Matcher.textNoCase t
  | notText t => Matcher.except (Matcher.text t)
  | notTextNoCase t => Matcher.except (Matcher.textNoCase t)
  | regex x => x.find
  | not p => fun s => if (run p s).isSome then none else some 0
  | peek p => fun s => (run p s).map fun _ => 0
  | optional p => fun s => some ((run p s).getD 0)
  | any ps => Matcher.any (runs ps)
  | seq ps => Matcher.seq (runs ps)
  | all ps => Matcher.all (runs ps)
  | longest ps => Matcher.best (fun new old => decide (old < new)) (runs ps)
  | shortest ps => Matcher.best (fun new old => decide (new < old)) (runs ps)
  | ifElse cond yes no => fun s =>
    match run cond s with
    | some n => (Matcher.after (run yes) n s).map (n + ·)
    | none => run no s
  | timesClass n k => Matcher.repeatWhere k.test n
  | times n p => Matcher.rounds (run p) n 0
  | manyClass min k => Matcher.repeatedWhere k.test min none
  | many min p => Matcher.repeated (run p) min none
  | boundedClass min max k => Matcher.repeatedWhere k.test min (some (max - min))
  | bounded min max p => Matcher.repeated (run p) min (some (max - min))
  | never => fun _ => none
  | always => fun _ => some 0

def runs : List Pattern → List Matcher
  | [] => []
  | p :: ps => run p :: runs ps

end

/-- The match at the offset `first` of a source, looking no further than `stop`. -/
def matchAt (p : Pattern) (source : List Char) (first stop : Nat) : Option Nat :=
  (Text.slice? source first stop).bind p.run

def describe (p : Pattern) : String := "Pattern::" ++
  match p with
  | atLeast _ => "AtLeast"
  | exactly _ => "Exact"
  | char _ => "Char"
  | inClass _ => "Pred"
  | escaped => "Escaped"
  | text _ => "Str"
  | textNoCase _ => "StrCi"
  | notText _ => "NotStr"
  | notTextNoCase _ => "NotStrCi"
  | regex _ => "Regex"
  | not _ => "Not"
  | peek _ => "Peek"
  | optional _ => "Optional"
  | any _ => "Or"
  | seq _ => "Seq"
  | all _ => "All"
  | longest _ => "Longest"
  | shortest _ => "Shortest"
  | ifElse .. => "IfElse"
  | timesClass .. | times .. => "Repeat"
  | manyClass .. | many .. => "Many"
  | boundedClass .. | bounded .. => "Some"
  | never => "Never"
  | always => "Always"

end Pattern

end Descent
