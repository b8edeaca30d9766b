import Descent.Pattern.Combinators
import Descent.Proofs.Pattern.Repetition
import Mathlib.Data.List.Forall2

set_option autoImplicit false

namespace Descent

inductive MatchFault where
  | cut (offset : Nat)
  | bounds (min max : Nat)
  | endless
  deriving DecidableEq, Repr

namespace Matcher

abbrev InPlace := List Char → Nat → Except MatchFault (Option Nat)

namespace InPlace

def cut (text : List Char) (k : Nat) : Except MatchFault (List Char) :=
  match Text.drop? k text with
  | some rest => .ok rest
  | none => .error (.cut k)

def ahead (m : Matcher) : InPlace := fun text k => do return m (← cut text k)

def any : List InPlace → InPlace
  | [], _, _ => .ok none
  | f :: fs, text, k => do
    match ← f text k with
    | some n => return some n
    | none => any fs text k

-- In sequences and repetitions `done` counts the bytes from `k` on that have been matched.

def seq : List InPlace → Nat → InPlace
  | [], done, _, _ => .ok (some done)
  | f :: fs, done, text, k => do
    match ← f text (k + done) with
    | some n => seq fs (done + n) text k
    | none => return none

def all : List InPlace → Nat → InPlace
  | [], most, _, _ => .ok (some most)
  | f :: fs, most, text, k => do
    match ← f text k with
    | some n => all fs (max most n) text k
    | none => return none

def best (better : Nat → Nat → Bool) : List InPlace → Option Nat → InPlace
  | [], sofar, _, _ => .ok sofar
  | f :: fs, sofar, text, k => do
    match ← f text k with
    | some n => best better fs (Matcher.best.init? better sofar n) text k
    | none => best better fs sofar text k

def ifElse (cond yes no : InPlace) : InPlace := fun text k => do
  match ← cond text k with
  | some n => return (← yes text (k + n)).map (n + ·)
  | none => no text k

def rounds (f : InPlace) : Nat → Nat → InPlace
  | 0, done, _, _ => .ok (some done)
  | n + 1, done, text, k => do
    match ← f text (k + done) with
    | some j => rounds f n (done + j) text k
    | none => return none

def greedy (f : InPlace) : Nat → Option Nat → Nat → List Char → Nat → Except MatchFault Nat
  | 0, _, _, _, _ => .error .endless
  | fuel + 1, limit, done, text, k =>
    if limit = some 0 then .ok done
    else do
      match ← f text (k + done) with
      | none | some 0 => return done
      | some (j + 1) => greedy f fuel (limit.map (· - 1)) (done + (j + 1)) text k

def room (min max : Nat) : Except MatchFault (Option Nat) :=
  if max < min then .error (.bounds min max) else .ok (some (max - min))

def repeated (f : InPlace) (min : Nat) (limit : Except MatchFault (Option Nat)) : InPlace :=
  fun text k => do
    match ← rounds f min 0 text k with
    | none => return none
    | some head => return some (head + (← greedy f (text.length + 1) (← limit) 0 text (k + head)))

def repeatedWhere (test : Char → Bool) (min : Nat) (limit : Except MatchFault (Option Nat)) :
    InPlace := fun text k => do
  let rest ← cut text k
  match Matcher.repeatWhere test min rest with
  | none => return none
  | some head => return some (head + spanWhere test (← limit) (← cut rest head))

end InPlace

namespace InPlace

open Text (size drop? drop?_size_append)

variable {f : InPlace} {fs : List InPlace} {m : Matcher} {ms : List Matcher}

@[simp] theorem ok_bind {α γ : Type} (x : α) (g : α → Except MatchFault γ) :
    (Except.ok x >>= g) = g x := rfl

/-- Without a fault the matcher finds what `m` finds after the offset, and that ends at a
boundary. -/
structure Realizes (f : InPlace) (m : Matcher) : Prop where
  run : ∀ p rest : List Char, f (p ++ rest) (size p) = .ok (m rest)
  fits : m.Fits

theorem cut_size_append (p rest : List Char) : cut (p ++ rest) (size p) = .ok rest := by
  simp [cut, drop?_size_append]

theorem Realizes.further (realizes : f.Realizes m) (p d rest : List Char) :
    f (p ++ (d ++ rest)) (size p + size d) = .ok (m rest) := by
  rw [← List.append_assoc, ← Text.size_append]
  exact realizes.run (p ++ d) rest

theorem Realizes.split (realizes : f.Realizes m) {rest : List Char} {n : Nat}
    (matched : m rest = some n) : ∃ q rest', rest = q ++ rest' ∧ n = size q :=
  realizes.fits rest n matched

theorem ahead_realizes (fits : m.Fits) : (ahead m).Realizes m := by
  refine ⟨fun p rest => ?_, fits⟩
  simp only [ahead, cut_size_append]
  rfl

theorem map_realizes {g : Option Nat → Option Nat}
    (keeps : ∀ r n, g r = some n → n = 0 ∨ r = some n) (realizes : f.Realizes m) :
    Realizes (fun text k => do return g (← f text k)) fun s => g (m s) := by
  refine ⟨fun p rest => ?_, fun rest n found => ?_⟩
  · simp only [realizes.run p rest]
    rfl
  · rcases keeps _ _ found with rfl | same
    · exact .zero
    · exact realizes.fits rest n same

theorem any_run (parts : List.Forall₂ Realizes fs ms) (p rest : List Char) :
    any fs (p ++ rest) (size p) = .ok (Matcher.any ms rest) := by
  induction parts with
  | nil => rfl
  | @cons f m fs ms first _ ih =>
    simp only [any, first.run p rest, Matcher.any, ok_bind]
    cases m rest with
    | some n => rfl
    | none => exact ih

theorem seq_run (parts : List.Forall₂ Realizes fs ms) (p d rest : List Char) :
    seq fs (size d) (p ++ (d ++ rest)) (size p) =
      .ok ((Matcher.seq ms rest).map (size d + ·)) := by
  induction parts generalizing d rest with
  | nil => rfl
  | @cons f m fs ms first _ ih =>
    simp only [seq, first.further p d rest, Matcher.seq]
    cases matched : m rest with
    | none => rfl
    | some n =>
      obtain ⟨q, rest, rfl, rfl⟩ := first.split matched
      have later := ih (d ++ q) rest
      rw [Text.size_append, List.append_assoc] at later
      refine later.trans ?_
      simp only [Option.bind_eq_bind, Option.bind_some, Matcher.after, drop?_size_append]
      cases Matcher.seq ms rest <;> simp [Nat.add_assoc]

theorem all_run (parts : List.Forall₂ Realizes fs ms) (most : Nat) (p rest : List Char) :
    all fs most (p ++ rest) (size p) = .ok ((Matcher.all ms rest).map (max most ·)) := by
  induction parts generalizing most with
  | nil => simp [all, Matcher.all]
  | @cons f m fs ms first _ ih =>
    simp only [all, first.run p rest, Matcher.all]
    cases m rest with
    | none => rfl
    | some n =>
      refine (ih (max most n)).trans ?_
      cases Matcher.all ms rest <;> simp [Nat.max_assoc]

theorem best_run (better : Nat → Nat → Bool) (parts : List.Forall₂ Realizes fs ms)
    (sofar : Option Nat) (p rest : List Char) :
    best better fs sofar (p ++ rest) (size p) =
      .ok ((ms.filterMap (· rest)).foldl (Matcher.best.init? better) sofar) := by
  induction parts generalizing sofar with
  | nil => rfl
  | @cons f m fs ms first _ ih =>
    simp only [best, first.run p rest, ok_bind, List.filterMap_cons]
    cases m rest with
    | none => exact ih sofar
    | some n => exact ih (Matcher.best.init? better sofar n)

theorem rounds_run (realizes : f.Realizes m) (n : Nat) (p d rest : List Char) :
    rounds f n (size d) (p ++ (d ++ rest)) (size p) = .ok (Matcher.rounds m n (size d) rest) := by
  induction n generalizing d rest with
  | zero => rfl
  | succ n ih =>
    simp only [rounds, realizes.further p d rest, Matcher.rounds]
    cases matched : m rest with
    | none => rfl
    | some k =>
      obtain ⟨q, rest, rfl, rfl⟩ := realizes.split matched
      have later := ih (d ++ q) rest
      rw [Text.size_append, List.append_assoc] at later
      refine later.trans ?_
      simp [drop?_size_append]

theorem greedy_run (realizes : f.Realizes m) {fuel : Nat} {limit : Option Nat}
    {p d rest : List Char} (enough : rest.length < fuel) :
    greedy f fuel limit (size d) (p ++ (d ++ rest)) (size p) =
      .ok (size d + upTo m limit rest) := by
  -- A round that goes on has matched a character, so the characters bound the rounds.
  induction fuel generalizing limit d rest with
  | zero => omega
  | succ fuel ih =>
    simp only [greedy, realizes.further p d rest]
    by_cases full : limit = some 0
    · rw [if_pos full, full, upTo_zero]
      rfl
    · rw [if_neg full]
      rcases matched : m rest with _ | _ | k
      · rw [upTo_of_none limit matched]
        rfl
      · rw [upTo_of_zero limit matched]
        rfl
      · obtain ⟨q, rest, rfl, length⟩ := realizes.split matched
        have moves : q ≠ [] := by
          rintro rfl
          cases length
        have shorter : rest.length < fuel := by
          have := List.length_pos_iff.2 moves
          simp only [List.length_append] at enough
          omega
        have later : greedy f fuel (limit.map (· - 1)) (size (d ++ q)) (p ++ (d ++ q ++ rest))
            (size p) = .ok (size (d ++ q) + upTo m (limit.map (· - 1)) rest) := ih shorter
        rw [Text.size_append, List.append_assoc, ← length] at later
        refine later.trans ?_
        rw [upTo_of_some realizes.fits full matched (Nat.succ_ne_zero k)
          (length ▸ drop?_size_append q rest), Nat.add_assoc]

theorem repeated_realizes (realizes : f.Realizes m) (min : Nat) (extra : Option Nat) :
    (repeated f min (.ok extra)).Realizes (Matcher.repeated m min extra) := by
  refine ⟨fun p rest => ?_, repeated_fits realizes.fits min extra⟩
  have head : rounds f min 0 (p ++ rest) (size p) = .ok (Matcher.rounds m min 0 rest) :=
    rounds_run realizes min p [] rest
  simp only [repeated, head, repeated_eq, ok_bind]
  cases matched : Matcher.rounds m min 0 rest with
  | none => rfl
  | some k =>
    obtain ⟨q, rest, rfl, rfl⟩ := rounds_fits min (p := []) matched
    have tail : greedy f ((p ++ (q ++ rest)).length + 1) extra 0 (p ++ (q ++ rest))
        (size p + size q) = .ok (upTo m extra rest) := by
      have run : greedy f ((p ++ (q ++ rest)).length + 1) extra (size []) (p ++ q ++ ([] ++ rest))
          (size (p ++ q)) = .ok (size [] + upTo m extra rest) :=
        greedy_run realizes (by simp only [List.length_append]; omega)
      simpa using run
    simp only [ok_bind, tail, Option.bind_some, drop?_size_append, Option.map_some]
    rfl

theorem repeatedWhere_realizes (test : Char → Bool) (min : Nat) (extra : Option Nat) :
    (repeatedWhere test min (.ok extra)).Realizes (Matcher.repeatedWhere test min extra) := by
  refine ⟨fun p rest => ?_, repeatedWhere_fits test min extra⟩
  simp only [repeatedWhere, cut_size_append, ok_bind, Matcher.repeatedWhere]
  cases matched : repeatWhere test min rest with
  | none => rfl
  | some k =>
    obtain ⟨q, rest, rfl, rfl⟩ := repeatWhere_fits test min rest k matched
    simp [cut_size_append, drop?_size_append]

theorem ifElse_realizes {cond yes no : InPlace} {c y n : Matcher} (first : cond.Realizes c)
    (second : yes.Realizes y) (third : no.Realizes n) :
    (ifElse cond yes no).Realizes fun s =>
      match c s with
      | some k => (Matcher.after y k s).map (k + ·)
      | none => n s := by
  refine ⟨fun p rest => ?_, fun rest k found => ?_⟩
  · simp only [ifElse, first.run p rest, ok_bind]
    cases matched : c rest with
    | none => exact third.run p rest
    | some k =>
      obtain ⟨q, rest, rfl, rfl⟩ := first.split matched
      simp only [second.further p q rest, ok_bind, Matcher.after, drop?_size_append,
        Option.bind_some]
      rfl
  · cases matched : c rest with
    | none =>
      rw [matched] at found
      exact third.fits rest k found
    | some j =>
      rw [matched] at found
      obtain ⟨i, later, rfl⟩ := Option.map_eq_some_iff.1 found
      exact after_fits second.fits later

end InPlace

end Matcher

theorem BoundsError.of_checked {α : Type} {min max : Nat} {x y : α}
    (made : (do BoundsError.check min max; return x : Except BoundsError α) = .ok y) :
    min ≤ max ∧ x = y := by
  unfold BoundsError.check at made
  split at made
  · cases made
  · cases made
    exact ⟨by omega, rfl⟩

namespace Pattern

open Matcher (InPlace)

mutual

def runAt : Pattern → InPlace
  | not p => fun text k => do return if (← runAt p text k).isSome then none else some 0
  | peek p => fun text k => do return (← runAt p text k).map fun _ => 0
  | optional p => fun text k => do return some ((← runAt p text k).getD 0)
  | any ps => .any (runsAt ps)
  | seq ps => .seq (runsAt ps) 0
  | all ps => .all (runsAt ps) 0
  | longest ps => .best (fun new old => decide (old < new)) (runsAt ps) none
  | shortest ps => .best (fun new old => decide (new < old)) (runsAt ps) none
  | ifElse cond yes no => .ifElse (runAt cond) (runAt yes) (runAt no)
  | times n p => .rounds (runAt p) n 0
  | manyClass min k => .repeatedWhere k.test min (.ok none)
  | many min p => .repeated (runAt p) min (.ok none)
  | boundedClass min max k => .repeatedWhere k.test min (InPlace.room min max)
  | bounded min max p => .repeated (runAt p) min (InPlace.room min max)
  | p => .ahead p.run

def runsAt : List Pattern → List InPlace
  | [] => []
  | p :: ps => runAt p :: runsAt ps

end

inductive Built : Pattern → Prop
  | atLeast (n : Nat) : Built (atLeast n)
  | exactly (n : Nat) : Built (exactly n)
  | char (c : Char) : Built (char c)
  | inClass (k : CharClass) : Built (inClass k)
  | escaped : Built escaped
  | text (s : List Char) : Built (text s)
  | textNoCase (s : List Char) : Built (textNoCase s)
  | notText (s : List Char) : Built (notText s)
  | notTextNoCase (s : List Char) : Built (notTextNoCase s)
  | regex (x : Search) : Built (regex x)
  | never : Built never
  | always : Built always
  | timesOf (n : Nat) (k : CharClass) : Built (timesOf n k)
  | atLeastOf (min : Nat) (k : CharClass) : Built (atLeastOf min k)
  | upToOf (max : Nat) (k : CharClass) : Built (upToOf max k)
  | betweenOf {min max : Nat} {k : CharClass} {p : Pattern} (made : betweenOf min max k = .ok p) :
    Built p
  | not {p : Pattern} (part : Built p) : Built (not p)
  | peek {p : Pattern} (part : Built p) : Built (peek p)
  | optional {p : Pattern} (part : Built p) : Built (optional p)
  | anyOf {ps : List Pattern} (parts : ∀ p ∈ ps, Built p) : Built (anyOf ps)
  | sequence {ps : List Pattern} (parts : ∀ p ∈ ps, Built p) : Built (sequence ps)
  | all {ps : List Pattern} (parts : ∀ p ∈ ps, Built p) : Built (all ps)
  | longest {ps : List Pattern} (parts : ∀ p ∈ ps, Built p) : Built (longest ps)
  | shortest {ps : List Pattern} (parts : ∀ p ∈ ps, Built p) : Built (shortest ps)
  | ifElse {cond yes no : Pattern} (first : Built cond) (second : Built yes) (third : Built no) :
    Built (ifElse cond yes no)
  | exactlyTimes {p : Pattern} (n : Nat) (part : Built p) : Built (exactlyTimes n p)
  | many {p : Pattern} (min : Nat) (part : Built p) : Built (many min p)
  | upTo {p : Pattern} (max : Nat) (part : Built p) : Built (upTo max p)
  | between {min max : Nat} {p q : Pattern} (part : Built p) (made : between min max p = .ok q) :
    Built q

def Realized (p : Pattern) : Prop := (runAt p).Realizes (run p)

theorem Realized.parts {ps : List Pattern} (parts : ∀ p ∈ ps, p.Realized) :
    List.Forall₂ InPlace.Realizes (runsAt ps) (runs ps) := by
  induction ps with
  | nil => exact .nil
  | cons p ps ih =>
    obtain ⟨first, others⟩ := List.forall_mem_cons.1 parts
    exact .cons first (ih others)

theorem realized_of_ahead {p : Pattern} (ahead : runAt p = .ahead (run p)) : p.Realized := by
  rw [Realized, ahead]
  exact InPlace.ahead_realizes (run_fits p)

theorem room_of_le {min max : Nat} (le : min ≤ max) :
    InPlace.room min max = .ok (some (max - min)) :=
  if_neg (Nat.not_lt.2 le)

theorem realized_bounded {p : Pattern} {min max : Nat} (le : min ≤ max) (part : p.Realized) :
    Realized (if max = 0 then .always else .bounded min max p) := by
  split
  · exact realized_of_ahead rfl
  · rw [Realized, runAt, room_of_le le]
    exact InPlace.repeated_realizes part min _

theorem realized_boundedClass {k : CharClass} {min max : Nat} (le : min ≤ max) :
    Realized (if max = 0 then .always else .boundedClass min max k) := by
  split
  · exact realized_of_ahead rfl
  · rw [Realized, runAt, room_of_le le]
    exact InPlace.repeatedWhere_realizes k.test min _

theorem realized_times {p : Pattern} (n : Nat) (part : p.Realized) : Realized (times n p) :=
  ⟨fun q rest => InPlace.rounds_run part n q [] rest, run_fits _⟩

theorem realized_any {ps : List Pattern} (parts : ∀ p ∈ ps, p.Realized) : Realized (any ps) :=
  ⟨InPlace.any_run (Realized.parts parts), run_fits _⟩

theorem realized_seq {ps : List Pattern} (parts : ∀ p ∈ ps, p.Realized) : Realized (seq ps) := by
  refine ⟨fun p rest => ?_, run_fits _⟩
  have found := InPlace.seq_run (Realized.parts parts) p [] rest
  simpa [runAt, run] using found

theorem realized_all {ps : List Pattern} (parts : ∀ p ∈ ps, p.Realized) : Realized (all ps) := by
  refine ⟨fun p rest => ?_, run_fits _⟩
  have found := InPlace.all_run (Realized.parts parts) 0 p rest
  simpa [runAt, run] using found

theorem realized_best {ps : List Pattern} {better : Nat → Nat → Bool} {p : Pattern}
    (inPlace : runAt p = InPlace.best better (runsAt ps) none)
    (plainly : run p = Matcher.best better (runs ps)) (parts : ∀ p ∈ ps, p.Realized) :
    p.Realized := by
  refine ⟨fun q rest => ?_, run_fits _⟩
  rw [inPlace, plainly]
  exact InPlace.best_run better (Realized.parts parts) none q rest

theorem Built.realized {p : Pattern} (built : Built p) : p.Realized := by
  induction built with
  | atLeast | exactly | char | inClass | escaped | text | textNoCase | notText | notTextNoCase
  | regex | never | always => exact realized_of_ahead rfl
  | timesOf n k =>
    unfold Pattern.timesOf
    split <;> exact realized_of_ahead rfl
  | atLeastOf min k => exact InPlace.repeatedWhere_realizes k.test min none
  | upToOf max k => exact realized_boundedClass (Nat.zero_le _)
  | betweenOf made =>
    obtain ⟨le, rfl⟩ := BoundsError.of_checked made
    exact realized_boundedClass le
  | not part ih =>
    have keeps (r : Option Nat) (n : Nat) (found : (if r.isSome then none else some 0) = some n) :
        n = 0 ∨ r = some n := by
      cases r <;> simp_all
    exact InPlace.map_realizes keeps ih
  | peek part ih =>
    have keeps (r : Option Nat) (n : Nat) (found : r.map (fun _ => 0) = some n) :
        n = 0 ∨ r = some n := by
      cases r <;> simp_all
    exact InPlace.map_realizes keeps ih
  | optional part ih =>
    have keeps (r : Option Nat) (n : Nat) (found : some (r.getD 0) = some n) :
        n = 0 ∨ r = some n := by
      cases r <;> simp_all
    exact InPlace.map_realizes keeps ih
  | anyOf parts ih =>
    unfold Pattern.anyOf
    split
    · exact realized_of_ahead rfl
    · exact ih _ List.mem_cons_self
    · exact realized_any ih
  | sequence parts ih =>
    unfold Pattern.sequence
    split
    · exact realized_of_ahead rfl
    · exact ih _ List.mem_cons_self
    · exact realized_seq ih
  | all parts ih => exact realized_all ih
  | longest parts ih => exact realized_best rfl rfl ih
  | shortest parts ih => exact realized_best rfl rfl ih
  | ifElse first second third ihCond ihYes ihNo => exact InPlace.ifElse_realizes ihCond ihYes ihNo
  | exactlyTimes n part ih =>
    unfold Pattern.exactlyTimes
    split
    · exact realized_of_ahead rfl
    · exact ih
    · exact realized_times _ ih
  | many min part ih => exact InPlace.repeated_realizes ih min none
  | upTo max part ih => exact realized_bounded (Nat.zero_le _) ih
  | between part made ih =>
    obtain ⟨le, rfl⟩ := BoundsError.of_checked made
    exact realized_bounded le ih

def matchWithin (p : Pattern) (source : List Char) (first stop : Nat) :
    Except MatchFault (Option Nat) :=
  match Text.slice? source first stop with
  | some window => runAt p window 0
  | none => .ok none

structure Sound (p : Pattern) : Prop where
  inText : ∀ text k, Text.IsBoundary text k →
    ∃ r, runAt p text k = .ok r ∧ ∀ n, r = some n → Text.IsBoundary text (k + n)
  inWindow : ∀ source first stop,
    ∃ r, p.matchWithin source first stop = .ok r ∧
      ∀ n, r = some n → first + n ≤ stop ∧ Text.IsBoundary source (first + n)
  ofSuffix : ∀ text k rest, Text.drop? k text = some rest →
    runAt p text k = runAt p rest 0

theorem Realized.sound {p : Pattern} (realized : p.Realized) : p.Sound := by
  have fromStart (rest : List Char) : runAt p rest 0 = .ok (p.run rest) := realized.run [] rest
  refine ⟨fun text k boundary => ?_, fun source first stop => ?_, fun text k rest dropped => ?_⟩
  · obtain ⟨q, rest, rfl, rfl⟩ := boundary
    refine ⟨p.run rest, realized.run q rest, fun n found => ?_⟩
    exact (realized.fits rest n found).append
  · unfold matchWithin
    cases cut : Text.slice? source first stop with
    | none => exact ⟨none, rfl, fun _ found => by cases found⟩
    | some window =>
      refine ⟨p.run window, fromStart window, fun n found => ?_⟩
      rw [Text.slice?_eq_bind] at cut
      obtain ⟨s, taken, dropped⟩ := Option.bind_eq_some_iff.1 cut
      obtain ⟨r, rfl, rfl⟩ := Text.exists_of_take? taken
      have boundary := (realized.fits window n found).after dropped
      exact ⟨boundary.le_size, boundary.extend⟩
  · obtain ⟨q, rfl, rfl⟩ := Text.drop?_eq_some_iff.1 dropped
    rw [realized.run, fromStart]

/-- Patterns that are built in place cut their text where it can be cut, count no rounds below zero,
and find what `matchAt` finds. -/
theorem built_stays_in_window {p : Pattern} (built : p.Built) :
    p.Sound ∧ ∀ source first stop,
      p.matchWithin source first stop = .ok (p.matchAt source first stop) := by
  refine ⟨built.realized.sound, fun source first stop => ?_⟩
  unfold matchWithin matchAt
  cases Text.slice? source first stop with
  | none => rfl
  | some window => exact built.realized.run [] window

theorem accented_stays_in_window :
    let p : Pattern := .ifElse (.char 'é') (upTo 2 (.inClass CharClass.digit))
      (sequence [.peek (.atLeast 1), .optional (.atLeast 2)])
    p.Built ∧ p.Sound ∧
      (∀ source first stop,
        p.matchWithin source first stop = .ok (p.matchAt source first stop)) ∧
      p.matchAt "xé75".toList 1 5 = some 4 := by
  intro p
  have built : p.Built := by
    refine .ifElse (.char 'é') (.upTo 2 (.inClass _)) (.sequence ?_)
    simp only [List.mem_cons, List.not_mem_nil, or_false, forall_eq_or_imp, forall_eq]
    exact ⟨.peek (.atLeast 1), .optional (.atLeast 2)⟩
  obtain ⟨sound, same⟩ := built_stays_in_window built
  exact ⟨built, sound, same, by decide⟩

end Pattern

end Descent
