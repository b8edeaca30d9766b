import Descent.Regex.Automaton

set_option autoImplicit false

namespace Descent.Regex

def unescape? (c : Char) : Option Char :=
  match c with
  | 'n' => some '\n'
  | 't' => some '\t'
  | 'r' => some '\r'
  | 'a' => some '\x07'
  | 'f' => some '\x0c'
  | 'v' => some '\x0b'
  | _ => if c.toNat < 128 && !c.isAlphanum && c != '<' && c != '>' then some c else none

def countLimit : Nat := Nat.pow 2 32

def number? (s : List Char) : Option (Nat × List Char) :=
  let s := s.dropWhile Text.isBlank
  match s.takeWhile Char.isDigit with
  | [] => none
  | ds =>
    let n := ds.foldl (fun n d => 10 * n + (d.toNat - '0'.toNat)) 0
    if n < countLimit then some (n, (s.drop ds.length).dropWhile Text.isBlank) else none

def counted? (s : List Char) : Option ((Nat × Option Nat) × List Char) := do
  let (low, s) ← number? s
  match s with
  | '\x7d' :: s => some ((low, some low), s)
  | ',' :: '\x7d' :: s => some ((low, none), s)
  | ',' :: s =>
    let (high, s) ← number? s
    match s with
    | '\x7d' :: s => if low ≤ high then some ((low, some high), s) else none
    | _ => none
  | _ => none

def classItem? : List Char → Option (Char × List Char)
  | '\\' :: c :: s => (unescape? c).map (·, s)
  | '\\' :: [] | [] => none
  | c :: s => some (c, s)

def asciiClass? : List Char → Option (CharSet × List Char)
  | ':' :: s =>
    let (negated, s) := match s with
      | '^' :: s => (true, s)
      | s => (false, s)
    let name := s.takeWhile (· != ':')
    match asciiClasses.lookup (String.ofList name), s.drop name.length with
    | some ranges, ':' :: ']' :: s => some (.named negated ranges, s)
    | _, _ => none
  | _ => none

mutual

-- Hyphens at the head, or else one closing bracket there, stand for themselves.
def class? : Nat → List Char → Option (CharSet × List Char)
  | 0, _ => none
  | n + 1, s => do
    let (negated, s) := match s with
      | '^' :: s => (true, s)
      | s => (false, s)
    let hyphens := s.takeWhile (· == '-')
    let s := s.drop hyphens.length
    let head := hyphens.foldl (fun k c => k.add (.single c)) CharSet.empty
    let (head, s) := match hyphens, s with
      | [], ']' :: s => (.single ']', s)
      | _, s => (head, s)
    let (k, s) ← members? n id head s
    some (.bracket negated k, s)

def members? : Nat → (CharSet → CharSet) → CharSet → List Char → Option (CharSet × List Char)
  | 0, _, _, _ => none
  | n + 1, join, k, s =>
    match s with
    | ']' :: s => some (join k, s)
    | '[' :: s =>
      -- What does not spell a named class is a class inside this one.
      match asciiClass? s with
      | some (t, s) => members? n join (k.add t) s
      | none => do
        let (t, s) ← class? n s
        members? n join (k.add t) s
    | '&' :: '&' :: s => members? n (.intersection (join k)) .empty s
    | '-' :: '-' :: s => members? n (.difference (join k)) .empty s
    | '~' :: '~' :: s => members? n (.symmetric (join k)) .empty s
    | s => do
      let (lo, s) ← classItem? s
      match s with
      -- A hyphen before the closing bracket stands for itself, and two of them are an operator.
      | '-' :: ']' :: _ | '-' :: '-' :: _ => members? n join (k.add (.single lo)) s
      | '-' :: s =>
        let (hi, s) ← classItem? s
        if lo ≤ hi then members? n join (k.add (.range lo hi)) s else none
      | s => members? n join (k.add (.single lo)) s

end

def groupHead? : List Char → Option (Group × List Char)
  | '?' :: ':' :: s => some (.plain, s)
  | '?' :: 'P' :: '<' :: s => named s
  | '?' :: '<' :: s => named s
  | '?' :: _ => none
  | s => some (.numbered, s)
where
  named (s : List Char) : Option (Group × List Char) :=
    let name := s.takeWhile (· != '>')
    match name, s.drop name.length with
    | c :: cs, '>' :: s =>
      if (c == '_' || Text.isAlphabetic c) && cs.all inName then
        some (.named (String.ofList name), s)
      else none
    | _, _ => none
  inName (c : Char) : Bool :=
    Text.isAlphabetic c || Text.isNumeric c || c == '_' || c == '.' || c == '[' || c == ']'

def laziness : List Char → Bool × List Char
  | '?' :: s => (false, s)
  | s => (true, s)

mutual

def alternatives? : Nat → List Char → Option (Regex × List Char)
  | 0, _ => none
  | n + 1, s => do
    let (r, s) ← items? n none s
    match s with
    | '|' :: s =>
      let (r', s) ← alternatives? n s
      some (alt r r', s)
    | s => some (r, s)

def items? : Nat → Option Regex → List Char → Option (Regex × List Char)
  | 0, _, _ => none
  | n + 1, last, s =>
    match s with
    | [] | '|' :: _ | ')' :: _ => some (last.getD empty, s)
    | '*' :: s => repeated? n last 0 none s
    | '+' :: s => repeated? n last 1 none s
    | '?' :: s => repeated? n last 0 (some 1) s
    | '\x7b' :: s => do
      let ((low, high), s) ← counted? s
      repeated? n last low high s
    | '(' :: s => do
      let (g, s) ← groupHead? s
      let (r, s) ← alternatives? n s
      match s with
      | ')' :: s => next? n last (group g r) s
      | _ => none
    | '[' :: s => do
      let (k, s) ← class? n s
      next? n last (set k) s
    | '\\' :: '<' :: s => next? n last (anchor .wordStart) s
    | '\\' :: '>' :: s => next? n last (anchor .wordEnd) s
    | '\\' :: c :: s => do
      let c ← unescape? c
      next? n last (literal c) s
    | '\\' :: [] => none
    | '^' :: s => next? n last (anchor .start) s
    | '$' :: s => next? n last (anchor .stop) s
    | '.' :: s => next? n last dot s
    | c :: s => next? n last (literal c) s

def repeated? : Nat → Option Regex → Nat → Option Nat → List Char → Option (Regex × List Char)
  | 0, _, _, _, _ => none
  | n + 1, last, low, high, s => do
    let r ← last
    let (greedy, s) := laziness s
    items? n (some (loop low high greedy r)) s

def next? : Nat → Option Regex → Regex → List Char → Option (Regex × List Char)
  | 0, _, _, _ => none
  | n + 1, last, r, s => do
    let (rest, s) ← items? n (some r) s
    match last with
    | none => some (rest, s)
    | some l => some (cat l rest, s)

end

def parse? (s : List Char) : Option Regex :=
  match alternatives? (3 * s.length + 3) s with
  | some (r, []) => if r.admissible then some r else none
  | _ => none

def Automaton.ofString? (s : String) : Option Automaton :=
  (parse? ("^(?:".toList ++ s.toList ++ [')'])).map (·.normal.automaton)

end Descent.Regex
