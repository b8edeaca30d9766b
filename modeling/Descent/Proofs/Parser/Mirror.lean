import Descent.Parser.Scanner
import Descent.Proofs.Parser.Input
import Descent.Proofs.Parser.Reading
import Descent.Proofs.Pattern.InPlace
import Descent.Proofs.Pattern.Shortcut

set_option autoImplicit false

namespace Descent

open Text (size drop?)

variable {β : Type} {a b : Ty}

def makeAll {α : Type} {n : Nat} (f : Fin n → Except BoundsError α) :
    Except BoundsError (List α) := (List.ofFn f).mapM id

inductive Alike {α γ : Type} (related : α → γ → Prop) :
    Except BoundsError α → Except BoundsError γ → Prop
  | ok {x : α} {y : γ} (both : related x y) : Alike related (.ok x) (.ok y)
  | error (e : BoundsError) : Alike related (.error e) (.error e)

namespace Alike

variable {α γ α' γ' : Type} {related : α → γ → Prop} {related' : α' → γ' → Prop}
  {x : Except BoundsError α} {y : Except BoundsError γ}

theorem bind {f : α → Except BoundsError α'} {g : γ → Except BoundsError γ'}
    (first : Alike related x y) (next : ∀ u v, related u v → Alike related' (f u) (g v)) :
    Alike related' (x >>= f) (y >>= g) := by
  cases first with
  | ok both => exact next _ _ both
  | error e => exact .error e

theorem map {f : α → α'} {g : γ → γ'} (first : Alike related x y)
    (next : ∀ u v, related u v → related' (f u) (g v)) :
    Alike related' (do return f (← x)) (do return g (← y)) :=
  first.bind fun u v both => .ok (next u v both)

theorem each {n : Nat} {f : Fin n → Except BoundsError α} {g : Fin n → Except BoundsError γ}
    (parts : ∀ i, Alike related (f i) (g i)) :
    Alike (List.Forall₂ related) (makeAll f) (makeAll g) := by
  unfold makeAll
  induction n with
  | zero => exact .ok .nil
  | succ n ih =>
    simp only [List.ofFn_succ, List.mapM_cons, id_eq]
    refine (parts 0).bind fun u v first => ?_
    exact (ih fun i => parts i.succ).map fun us vs others => .cons first others

end Alike

inductive Form where
  | atom (p : Pattern) (label : String)
  | sequence {n : Nat} (parts : Fin n → Form)
  | any {n : Nat} (parts : Fin n → Form)
  | longest {n : Nat} (parts : Fin n → Form)
  | shortest {n : Nat} (parts : Fin n → Form)
  | optional (f : Form)
  | many (f : Form)
  | atLeast (min : Nat) (f : Form)
  | upTo (max : Nat) (f : Form)
  | between (min max : Nat) (f : Form)
  | times (n : Nat) (f : Form)
  | not (f : Form)
  | peek (f : Form)
  | ifElse (cond yes no : Form)

namespace Form

def pattern : Form → Except BoundsError Pattern
  | atom p _ => return p
  | sequence parts => do return Pattern.sequence (← makeAll fun i => (parts i).pattern)
  | any parts => do return Pattern.anyOf (← makeAll fun i => (parts i).pattern)
  | longest parts => do return .longest (← makeAll fun i => (parts i).pattern)
  | shortest parts => do return .shortest (← makeAll fun i => (parts i).pattern)
  | optional f => do return .optional (← f.pattern)
  | many f => do return .many 0 (← f.pattern)
  | atLeast min f => do return .many min (← f.pattern)
  | upTo max f => do return Pattern.upTo max (← f.pattern)
  | between min max f => do Pattern.between min max (← f.pattern)
  | times n f => do return Pattern.exactlyTimes n (← f.pattern)
  | not f => do return .not (← f.pattern)
  | peek f => do return .peek (← f.pattern)
  | ifElse cond yes no => do
    let c ← cond.pattern
    let y ← yes.pattern
    return .ifElse c y (← no.pattern)

def scanner : Form → Except BoundsError (Scanner β)
  | atom p l => return .pattern p l
  | sequence parts => do
    return .atomize (Parser.sequence () (← makeAll fun i => (parts i).scanner))
  | any parts => do return .atomize (Parser.plus (← makeAll fun i => (parts i).scanner))
  | longest parts => do return .atomize (Parser.longest (← makeAll fun i => (parts i).scanner))
  | shortest parts => do return .atomize (Parser.shortest (← makeAll fun i => (parts i).scanner))
  | optional f => do
    return .atomize (Parser.map (b := .unit) (fun _ => ()) (Parser.optional (← f.scanner)))
  | many f => do return .atomize (Parser.skipMany (← f.scanner))
  | atLeast min f => do
    return .atomize (Parser.manyWith (b := .unit) min Parser.discard (← f.scanner))
  | upTo max f => do return .atomize (Parser.skipUpTo max (← f.scanner))
  | between min max f => do
    return .atomize (← Parser.rangeWith (b := .unit) min max Parser.discard (← f.scanner))
  | times n f => do return .atomize (Parser.skipTimes n (← f.scanner))
  | not f => do return .atomize (Parser.not (← f.scanner))
  | peek f => do return .atomize (.peek (← f.scanner))
  | ifElse cond yes no => do
    let c ← cond.scanner
    let y ← yes.scanner
    return .atomize (.ifElse c (fun _ => y) (← no.scanner))

end Form

inductive Outcome.Echoes (first : Nat) : Option Nat → Outcome β a → Prop
  | found {k : Nat} (v : a.Value β) (t : State β) (offset : t.offset = first + k) :
    Echoes first (some k) ⟨.ok v, t⟩
  | missed (t : State β) : Echoes first none ⟨.error .fail, t⟩

theorem Outcome.Echoes.after {first k : Nat} {r : Option Nat} {o : Outcome β a}
    (echo : Echoes (first + k) r o) : o.Echoes first (r.map (k + ·)) := by
  cases echo with
  | found v t offset => exact .found v t (offset.trans (Nat.add_assoc _ _ _))
  | missed t => exact .missed t

theorem Outcome.Echoes.of_none {first : Nat} {o : Outcome β a} (echo : o.Echoes first none) :
    ∃ t, o = ⟨.error .fail, t⟩ := by
  cases echo with
  | missed t => exact ⟨t, rfl⟩

theorem Outcome.Echoes.of_some {first k : Nat} {o : Outcome β a} (echo : o.Echoes first (some k)) :
    ∃ v t, o = ⟨.ok v, t⟩ ∧ t.offset = first + k := by
  cases echo with
  | found v t offset => exact ⟨v, t, rfl, offset⟩

namespace Action

variable {env : Env} {w : Window} {x : Action β a} {m : Matcher}

def Echoes (env : Env) (w : Window) (x : Action β a) (m : Matcher) : Prop :=
  ∀ (s : State β) (rest : List Char), w.rest? s.offset = some rest →
    (x.run env s).Echoes s.offset (m rest)

theorem Echoes.mapRet (echoes : x.Echoes env w m) (g : a.Value β → b.Value β) :
    (Action.bind x fun v => ret (g v)).Echoes env w m := by
  intro s rest here
  have echo := echoes s rest here
  rw [run_bind]
  generalize m rest = r at echo ⊢
  generalize x.run env s = o at echo ⊢
  cases echo with
  | missed t => exact .missed t
  | found v t offset => exact .found (g v) t offset

def FailsInPlace (env : Env) (x : Action β a) : Prop :=
  ∀ s t : State β, x.run env s = ⟨.error .fail, t⟩ → t.offset = s.offset

theorem pattern_cases (input : env.input = .chars w) (p : Pattern) (l : String) (s : State β) :
    ((w.rest? s.offset).bind p.run = none ∧
        ∃ t : State β, (pattern p l).run env s = ⟨.error .fail, t⟩ ∧ t.cursor = s.cursor) ∨
      ∃ k, (w.rest? s.offset).bind p.run = some k ∧
        (pattern p l).run env s = ⟨.ok (), s.skip k⟩ := by
  have window : env.window s.offset = .ok w := by simp only [Env.window, input]
  simp only [run, pattern, window]
  cases (w.rest? s.offset).bind p.run with
  | none => exact .inl ⟨rfl, s.reject env (.instead l), rfl, State.reject_cursor env s _⟩
  | some k => exact .inr ⟨k, rfl, rfl⟩

structure Mirrors (env : Env) (w : Window) (x : Action β a) (m : Matcher) : Prop where
  echoes : x.Echoes env w m
  inPlace : x.FailsInPlace env
  fits : m.Fits

namespace Mirrors

theorem step (mirrors : x.Mirrors env w m) {s : State β} {rest : List Char}
    (here : w.rest? s.offset = some rest) :
    (m rest = none ∧ ∃ t, x.run env s = ⟨.error .fail, t⟩ ∧ t.offset = s.offset) ∨
      ∃ p rest' v t, rest = p ++ rest' ∧ m rest = some (size p) ∧ x.run env s = ⟨.ok v, t⟩ ∧
        t.offset = s.offset + size p ∧ w.rest? t.offset = some rest' := by
  have echo := mirrors.echoes s rest here
  generalize found : m rest = r at echo
  generalize run : x.run env s = o at echo
  cases echo with
  | missed t => exact .inl ⟨rfl, t, rfl, mirrors.inPlace s t run⟩
  | found v t offset =>
    obtain ⟨p, rest', rfl, rfl⟩ := mirrors.fits rest _ found
    exact .inr ⟨p, rest', v, t, rfl, rfl, rfl, offset, offset ▸ Window.rest?_append here⟩

theorem atomize (echoes : x.Echoes env w m) (fits : m.Fits) :
    (Action.atomize x).Mirrors env w m := by
  refine ⟨fun s rest here => ?_, fun s t failed => ?_, fits⟩
  · have echo := echoes s rest here
    simp only [run, Action.atomize] at echo ⊢
    generalize m rest = r at echo ⊢
    generalize x env defaultLookahead s = o at echo ⊢
    cases echo with
    | missed t => exact .missed _
    | found v t offset => exact .found v _ offset
  · simp only [run, Action.atomize] at failed
    split at failed
    · cases failed
    · cases failed
      rfl

theorem pattern (input : env.input = .chars w) (p : Pattern) (l : String) :
    (Action.pattern p l : Action β .unit).Mirrors env w p.run where
  echoes := by
    intro s rest here
    rcases pattern_cases input p l s with ⟨misses, t, ran, -⟩ | ⟨k, matched, ran⟩
    · rw [here, Option.bind_some] at misses
      rw [ran, misses]
      exact .missed t
    · rw [here, Option.bind_some] at matched
      rw [ran, matched]
      exact .found _ _ rfl
  inPlace := by
    intro s t failed
    rcases pattern_cases input p l s with ⟨-, u, ran, still⟩ | ⟨k, -, ran⟩
    · cases ran.symm.trans failed
      exact congrArg Cursor.offset still
    · cases ran.symm.trans failed
  fits := p.run_fits

theorem char (input : env.input = .chars w) (k : CharClass) (f : Char → a.Value β) :
    (Action.char k f).Mirrors env w (Matcher.charWhere k.test) := by
  have first (s : State β) : env.char? s.offset = .ok (w.rest s.offset).head? := by
    simp only [Env.char?, Env.rest, Env.window, input, Except.map]
  refine ⟨fun s rest here => ?_, fun s t failed => ?_, (Matcher.charWhere_recognizes _).fits⟩
  · have text := Window.rest_of_rest? here
    simp only [run, Action.char, first, text]
    cases rest with
    | nil => exact .missed _
    | cons c rest =>
      by_cases passes : k.test c = true
      · have offset : (s.next env).offset = s.offset + c.utf8Size := by
          simp only [State.next, input, text]
          rfl
        simp only [List.head?_cons, Option.filter_some, passes, if_true, Matcher.charWhere]
        exact .found _ _ offset
      · simp only [List.head?_cons, Option.filter_some, passes, Matcher.charWhere]
        exact .missed _
  · simp only [run, Action.char, first] at failed
    split at failed
    · cases failed
    · cases failed
      simp [State.offset]

theorem peek (mirrors : x.Mirrors env w m) :
    (Action.peek x).Mirrors env w fun s => (m s).map fun _ => 0 := by
  refine ⟨fun s rest here => ?_, fun s t failed => ?_, Matcher.fits_of_zero fun s n matched => ?_⟩
  · have echo := mirrors.echoes s rest here
    simp only [run, Action.peek] at echo ⊢
    generalize m rest = r at echo ⊢
    generalize x env defaultLookahead s = o at echo ⊢
    cases echo with
    | missed t => exact .missed _
    | found v t offset => exact .found v _ rfl
  · simp only [run, Action.peek, Outcome.mk.injEq] at failed
    rw [← failed.2]
    rfl
  · obtain ⟨-, -, rfl⟩ := Option.map_eq_some_iff.1 matched
    rfl

theorem mapRet (mirrors : x.Mirrors env w m) (g : a.Value β → b.Value β) :
    (Action.bind x fun v => ret (g v)).Mirrors env w m := by
  refine ⟨mirrors.echoes.mapRet g, fun s t failed => ?_, mirrors.fits⟩
  rw [run_bind] at failed
  rcases first : x.run env s with ⟨r, u⟩
  rw [first] at failed
  cases r with
  | ok v => cases failed
  | error e =>
    cases failed
    exact mirrors.inPlace s t first

end Mirrors

theorem mirrors_ret (v : a.Value β) : (ret v).Mirrors env w fun _ => some 0 where
  echoes s _ _ := .found v s rfl
  inPlace s t failed := by cases failed
  fits := Matcher.fits_of_zero fun _ _ matched => (Option.some.inj matched).symm

theorem mirrors_reject (why : Rejection) :
    (reject why : Action β a).Mirrors env w fun _ => none where
  echoes s _ _ := .missed _
  inPlace s t failed := by
    cases failed
    simp [State.offset]
  fits := by
    intro _ _ matched
    cases matched

variable {xs : List (Action β a)} {ms : List Matcher}

theorem sumFrom_echoes (parts : List.Forall₂ (Mirrors env w) xs ms) (n : Nat) {s : State β}
    {rest : List Char} (here : w.rest? s.offset = some rest) :
    (sumFrom env n s.cursor xs s).Echoes s.offset (Matcher.any ms rest) := by
  induction parts generalizing s with
  | nil => exact .missed s
  | @cons x m xs ms first _ ih =>
    simp only [sumFrom, Matcher.any]
    rcases first.step here with ⟨misses, t, run, still⟩ | ⟨p, _, v, t, _, matched, run, offset, _⟩
    · -- A branch that fails in place is not committed, and the next one begins where it did.
      have uncommitted : ¬ t.cursor.committedFrom s.cursor n = true := by
        simp [Cursor.committedFrom, State.unmoved still]
      simp only [run, misses, orElse, if_neg uncommitted]
      exact ih (s := (t.mergeError s.error).restore s.cursor) here
    · rw [run, matched]
      exact .found v t offset

theorem prefers_add (p : Preference) (first j k : Nat) :
    p.prefers (first + j) (first + k) = p.prefers j k := by
  cases p <;> simp [Preference.prefers]

theorem favoredRest_echoes (parts : List.Forall₂ (Mirrors env w) xs ms) (p : Preference)
    {start : Cursor} {rest : List Char} (here : w.rest? start.offset = some rest)
    (v : a.Value β) (k : Nat) {best : Cursor} (kept : best.offset = start.offset + k)
    (s : State β) :
    (favoredRest p env start xs v best s).Echoes start.offset
      ((ms.filterMap (· rest)).foldl (Matcher.best.init? p.prefers) (some k)) := by
  induction parts generalizing v k best s with
  | nil => exact .found v _ kept
  | @cons x m xs ms first _ ih =>
    simp only [favoredRest, List.filterMap_cons]
    rcases first.step (s := s.restore start) here with
      ⟨misses, t, run, -⟩ | ⟨q, _, u, t, _, matched, run, offset, _⟩
    · simp only [run, misses]
      exact ih v k kept t
    · have longer : p.prefers t.offset best.offset = p.prefers (size q) k := by
        rw [offset, kept]
        exact prefers_add p start.offset (size q) k
      simp only [run, matched, longer, List.foldl_cons, Matcher.best.init?]
      split
      · exact ih u (size q) offset t
      · exact ih v k kept t

theorem favoredFrom_echoes (parts : List.Forall₂ (Mirrors env w) xs ms) (p : Preference)
    (e : Option Diagnostic) {s : State β} {rest : List Char}
    (here : w.rest? s.offset = some rest) :
    (favoredFrom p env s.cursor xs e s).Echoes s.offset (Matcher.best p.prefers ms rest) := by
  unfold Matcher.best
  induction parts generalizing e s with
  | nil => exact .missed _
  | @cons x m xs ms first others ih =>
    simp only [favoredFrom, List.filterMap_cons]
    rcases first.step here with ⟨misses, t, run, -⟩ | ⟨q, _, v, t, _, matched, run, offset, _⟩
    · simp only [run, misses]
      exact ih _ (s := ((t.mergeError e).setError none).restore s.cursor) here
    · simp only [run, matched]
      exact favoredRest_echoes others p here v (size q) offset t

theorem ifElse_echoes {c y n : Matcher} {yes : a.Value β → Action β b} {no : Action β b}
    (cond : x.Mirrors env w c) (accept : ∀ v, (yes v).Mirrors env w y)
    (refuse : no.Mirrors env w n) :
    (Action.ifElse x yes no).Echoes env w fun s =>
      match c s with
      | some k => (Matcher.after y k s).map (k + ·)
      | none => n s := by
  intro s rest here
  simp only [run, Action.ifElse]
  rcases cond.step here with
    ⟨misses, t, run, still⟩ | ⟨p, rest', v, t, rfl, matched, run, offset, there⟩
  · have uncommitted : ¬ t.cursor.committedFrom s.cursor defaultLookahead = true := by
      simp [Cursor.committedFrom, State.unmoved still]
    have echo := refuse.echoes ((t.restore s.cursor).setError none) rest here
    simp only [Action.run] at run echo
    simp only [run, misses, if_neg uncommitted]
    generalize n rest = r at echo ⊢
    generalize no env defaultLookahead ((t.restore s.cursor).setError none) = o at echo ⊢
    cases echo with
    | missed u => exact .missed _
    | found v u offset => exact .found v _ offset
  · have echo := (accept v).echoes t rest' there
    rw [offset] at echo
    simp only [Action.run] at run echo
    simp only [run, matched, Matcher.after, Text.drop?_size_append, Option.bind_some]
    exact echo.after

section Loops

variable {min : Nat} {max : Option Nat} {finish : List (a.Value β) → b.Value β}

theorem loopFrom_echoes_open (mirrors : x.Mirrors env w m) {fuel count : Nat}
    {values : List (a.Value β)} {s : State β} {rest : List Char}
    (here : w.rest? s.offset = some rest) (enough : size rest < fuel) (begun : min ≤ count)
    (within : ∀ n, max = some n → count ≤ n) :
    (loopFrom x min max finish env fuel count values s).Echoes s.offset
      (some (m.upTo (max.map (· - count)) rest)) := by
  induction fuel generalizing count values s rest with
  | zero => omega
  | succ fuel ih =>
    simp only [loopFrom]
    by_cases full : max = some count
    · rw [if_pos full, full, Option.map_some, Nat.sub_self, Matcher.upTo_zero]
      exact .found _ s rfl
    · have pending : ¬ count < min := by omega
      rw [if_neg full]
      rcases mirrors.step here with
        ⟨misses, t, run, still⟩ | ⟨p, rest', v, t, rfl, matched, run, offset, there⟩
      · simp only [run, pending, State.unmoved still, decide_false, Bool.or_false,
          Bool.false_eq_true, if_false]
        rw [Matcher.upTo_of_none _ misses]
        exact .found _ _ rfl
      · simp only [run, begun, decide_true, Bool.true_and]
        by_cases empty : size p = 0
        · have still : t.offset = s.offset := by omega
          rw [Matcher.upTo_of_zero _ (empty ▸ matched)]
          simp only [State.unmoved still, Bool.not_false, if_true]
          exact .found _ t (by omega)
        · -- A round that moves takes text away, so there is always another one allowed.
          have moved : t.cursor.movedFrom s.cursor = true := by
            simp only [Cursor.movedFrom, bne_iff_ne]
            exact fun same => empty (by simp only [State.offset] at offset; omega)
          have admitted : max.map (· - count) ≠ some 0 := by
            intro last
            obtain ⟨n, rfl, zero⟩ := Option.map_eq_some_iff.1 last
            have := within n rfl
            exact full (congrArg _ (by omega))
          have shorter : size rest' < fuel := by
            simp only [Text.size_append] at enough
            omega
          have room : ∀ n, max = some n → count + 1 ≤ n := by
            rintro n rfl
            have := within n rfl
            have : n ≠ count := fun same => full (congrArg _ same)
            omega
          have later : (loopFrom x min max finish env fuel (count + 1) (v :: values) t).Echoes
              t.offset (some (m.upTo (max.map (· - (count + 1))) rest')) :=
            ih there shorter (by omega) room
          rw [offset] at later
          simp only [moved, Bool.not_true, Bool.false_eq_true, if_false]
          rw [Matcher.upTo_of_some mirrors.fits admitted matched empty
            (Text.drop?_size_append p rest'), Option.map_map]
          exact later.after

theorem loopFrom_echoes (mirrors : x.Mirrors env w m) {fuel count left : Nat}
    {values : List (a.Value β)} {s : State β} {rest : List Char}
    (here : w.rest? s.offset = some rest) (enough : left + size rest < fuel)
    (due : count + left = min) (within : ∀ n, max = some n → min ≤ n) :
    (loopFrom x min max finish env fuel count values s).Echoes s.offset
      ((m.rounds left 0 rest).bind fun head =>
        (drop? head rest).map fun rest' => head + m.upTo (max.map (· - min)) rest') := by
  induction left generalizing fuel count values s rest with
  | zero =>
    obtain rfl : count = min := due
    have begun : (loopFrom x count max finish env fuel count values s).Echoes s.offset
        (some (m.upTo (max.map (· - count)) rest)) :=
      loopFrom_echoes_open mirrors here (by omega) (Nat.le_refl _) within
    simpa [Matcher.rounds] using begun
  | succ left ih =>
    obtain ⟨fuel, rfl⟩ : ∃ n, fuel = n + 1 := ⟨fuel - 1, by omega⟩
    have pending : count < min := by omega
    have full : max ≠ some count := fun same => by
      have := within count same
      omega
    simp only [loopFrom, if_neg full]
    rcases mirrors.step here with
      ⟨misses, t, run, -⟩ | ⟨p, rest', v, t, rfl, matched, run, offset, there⟩
    · simp only [run, pending, decide_true, Bool.true_or, if_true]
      rw [Matcher.rounds_succ_of_none left misses]
      exact .missed t
    · have early : ¬ min ≤ count := by omega
      have shorter : left + size rest' < fuel := by
        simp only [Text.size_append] at enough
        omega
      have later : (loopFrom x min max finish env fuel (count + 1) (v :: values) t).Echoes t.offset
          ((m.rounds left 0 rest').bind fun head =>
            (drop? head rest').map fun last => head + m.upTo (max.map (· - min)) last) :=
        ih there shorter (by omega)
      rw [offset] at later
      simp only [run, early, decide_false, Bool.false_and, Bool.false_eq_true, if_false]
      rw [Matcher.rounds_succ_of_some left matched (Text.drop?_size_append p rest')]
      cases others : m.rounds left 0 rest' with
      | none =>
        rw [others] at later
        exact later.after
      | some head =>
        rw [others] at later
        obtain ⟨d, r, rfl, rfl⟩ := Matcher.rounds_fits left (p := []) others
        have left := Text.drop?_size_append (p ++ d) r
        rw [Text.size_append, List.append_assoc] at left
        simp only [Option.bind_some, Text.drop?_size_append, Option.map_some, left] at later ⊢
        rw [Nat.add_assoc]
        exact later.after

theorem loop_echoes (mirrors : x.Mirrors env w m) (input : env.input = .chars w)
    (within : ∀ n, max = some n → min ≤ n) :
    (Action.loop x min max finish).Echoes env w (m.repeated min (max.map (· - min))) := by
  intro s rest here
  have length := Window.size_rest? here
  have stop : env.stop = w.stop := by
    unfold Env.stop
    rw [input]
  rw [Matcher.repeated_eq]
  exact loopFrom_echoes mirrors here (by omega) (Nat.zero_add min) within

end Loops

end Action

/-- A scanner that no alternation takes apart, that does not look at the lookahead, and that mirrors
the pattern. -/
structure Translates (calls : Calls β) (env : Env) (w : Window) (p : Pattern) (q : Scanner β) :
    Prop where
  whole : q.branches = [q]
  level : ∀ env n s, q.eval calls env n s = (q.eval calls).run env s
  mirrors : (q.eval calls).Mirrors env w p.run

namespace Translates

variable {calls : Calls β} {env : Env} {w : Window} {p : Pattern} {q : Scanner β}
  {ps : List Pattern} {qs : List (Scanner β)}

theorem atomize {x : Parser β .unit} (echoes : (x.eval calls).Echoes env w p.run) :
    Translates calls env w p (.atomize x) :=
  ⟨rfl, fun _ _ _ => rfl, .atomize echoes p.run_fits⟩

theorem list (parts : List.Forall₂ (Translates calls env w) ps qs) :
    List.Forall₂ (Action.Mirrors env w) (qs.map (Parser.eval calls)) (Pattern.runs ps) := by
  induction parts with
  | nil => exact .nil
  | cons first _ ih => exact .cons first.mirrors ih

theorem actions (parts : List.Forall₂ (Translates calls env w) ps qs) :
    qs.flatMap (Parser.actions calls) = qs.map (Parser.eval calls) := by
  induction parts with
  | nil => rfl
  | @cons p q ps qs first _ ih =>
    have alone : Parser.actions calls q = [q.eval calls] := by
      rw [Parser.actions, first.whole]
      rfl
    rw [List.flatMap_cons, ih, alone]
    rfl

theorem sequence_echoes (parts : List.Forall₂ (Translates calls env w) ps qs)
    (v : Ty.unit.Value β) :
    ((Parser.sequence v qs).eval calls).Echoes env w (Matcher.seq (Pattern.runs ps)) := by
  induction parts generalizing v with
  | nil => exact fun s _ _ => .found v s rfl
  | @cons p q ps qs first _ ih =>
    intro s rest here
    have unfolded : ((Parser.sequence v (q :: qs)).eval calls).run env s =
        Action.andThen ((q.eval calls).run env s) fun v t =>
          ((Parser.sequence v qs).eval calls).run env t := rfl
    rw [unfolded]
    simp only [Pattern.runs, Matcher.seq, Option.bind_eq_bind]
    rcases first.mirrors.step here with
      ⟨misses, t, run, -⟩ | ⟨d, rest', v, t, rfl, matched, run, offset, there⟩
    · rw [run, misses]
      exact .missed t
    · have later := ih v t rest' there
      rw [offset] at later
      simp only [run, matched, Action.andThen, Option.bind_some, Matcher.after,
        Text.drop?_size_append]
      cases others : Matcher.seq (Pattern.runs ps) rest' <;> rw [others] at later <;>
        exact later.after

theorem sequence (parts : List.Forall₂ (Translates calls env w) ps qs) :
    Translates calls env w (Pattern.sequence ps) (.atomize (Parser.sequence () qs)) := by
  refine .atomize ?_
  rw [Pattern.sequence_run]
  exact sequence_echoes parts ()

theorem any (parts : List.Forall₂ (Translates calls env w) ps qs) :
    Translates calls env w (Pattern.anyOf ps) (.atomize (Parser.plus qs)) := by
  refine .atomize fun s rest here => ?_
  rw [Pattern.anyOf_run, Parser.eval_plus, actions parts]
  exact Action.sumFrom_echoes (list parts) Action.defaultLookahead here

theorem longest (parts : List.Forall₂ (Translates calls env w) ps qs) :
    Translates calls env w (.longest ps) (.atomize (Parser.longest qs)) := by
  refine .atomize fun s rest here => ?_
  rw [Parser.eval_longest, Pattern.run]
  exact Action.favoredFrom_echoes (list parts) .longest none here

theorem shortest (parts : List.Forall₂ (Translates calls env w) ps qs) :
    Translates calls env w (.shortest ps) (.atomize (Parser.shortest qs)) := by
  refine .atomize fun s rest here => ?_
  rw [Parser.eval_shortest, Pattern.run]
  exact Action.favoredFrom_echoes (list parts) .shortest none here

theorem optional (part : Translates calls env w p q) :
    Translates calls env w (.optional p)
      (.atomize (Parser.map (b := .unit) (fun _ => ()) (Parser.optional q))) := by
  refine .atomize ?_
  have branches : List.Forall₂ (Action.Mirrors env w)
      [Action.bind (q.eval calls) fun v => Action.ret (a := .option .unit) (some v),
        Action.ret (a := .option .unit) none]
      [p.run, fun _ => some 0] :=
    .cons (part.mirrors.mapRet _) (.cons (Action.mirrors_ret _) .nil)
  have either : ((Parser.optional q).eval calls).Echoes env w (.any [p.run, fun _ => some 0]) := by
    intro s rest here
    rw [Parser.eval_optional]
    exact Action.sumFrom_echoes branches Action.defaultLookahead here
  have same : (Pattern.optional p).run = .any [p.run, fun _ => some 0] := by
    funext s
    rw [Pattern.run]
    cases matched : p.run s <;> simp [Matcher.any, matched]
  rw [same]
  exact either.mapRet _

theorem not (part : Translates calls env w p q) :
    Translates calls env w (.not p) (.atomize (Parser.not q)) := by
  refine .atomize ?_
  rw [Pattern.not_run]
  exact Action.ifElse_echoes part.mirrors.peek (fun _ => Action.mirrors_reject _)
    (Action.mirrors_ret _)

theorem ifElse {cond yes no : Pattern} {c y n : Scanner β} (first : Translates calls env w cond c)
    (second : Translates calls env w yes y) (third : Translates calls env w no n) :
    Translates calls env w (.ifElse cond yes no) (.atomize (.ifElse c (fun _ => y) n)) := by
  refine .atomize ?_
  rw [Pattern.run]
  exact Action.ifElse_echoes first.mirrors (fun _ => second.mirrors) third.mirrors

theorem loop (part : Translates calls env w p q) (input : env.input = .chars w) {min : Nat}
    {max : Option Nat} (within : ∀ n, max = some n → min ≤ n) {r : Pattern}
    (run : r.run = p.run.repeated min (max.map (· - min))) :
    Translates calls env w r (.atomize (.loop q min max Parser.discard)) := by
  refine .atomize ?_
  rw [run]
  exact Action.loop_echoes part.mirrors input within

end Translates

theorem Form.translates (calls : Calls β) {env : Env} {w : Window} (input : env.input = .chars w)
    (f : Form) : Alike (Translates calls env w) f.pattern f.scanner := by
  -- One case for each combinator. All repetitions are loops with bounds of their own.
  induction f with
  | atom p l => exact .ok ⟨rfl, fun _ _ _ => rfl, .pattern input p l⟩
  | sequence parts ih => exact (Alike.each ih).map fun _ _ => .sequence
  | any parts ih => exact (Alike.each ih).map fun _ _ => .any
  | longest parts ih => exact (Alike.each ih).map fun _ _ => .longest
  | shortest parts ih => exact (Alike.each ih).map fun _ _ => .shortest
  | optional f ih => exact ih.map fun _ _ => .optional
  | many f ih =>
    exact ih.map fun p q part => part.loop input (by simp) (by rw [Pattern.run]; rfl)
  | atLeast min f ih =>
    exact ih.map fun p q part => part.loop input (by simp) (by rw [Pattern.run]; rfl)
  | upTo max f ih =>
    exact ih.map fun p q part => part.loop input (by simp) (Pattern.bounded_run (Nat.zero_le _))
  | between min max f ih =>
    refine ih.bind fun p q part => ?_
    simp only [Pattern.between, Parser.rangeWith, BoundsError.check]
    split
    · exact .error _
    · have le : min ≤ max := by omega
      exact .ok (part.loop input (by simpa using le) (Pattern.bounded_run le))
  | times n f ih =>
    refine ih.map fun p q part => part.loop input (by simp) ?_
    rw [Pattern.exactlyTimes_run, Option.map_some, Nat.sub_self]
  | not f ih => exact ih.map fun _ _ => .not
  | peek f ih =>
    refine ih.map fun p q part => .atomize ?_
    rw [Pattern.run]
    exact part.mirrors.peek.echoes
  | ifElse cond yes no ihCond ihYes ihNo =>
    refine ihCond.bind fun c c' first => ?_
    refine ihYes.bind fun y y' second => ?_
    exact ihNo.map fun n n' third => .ifElse first second third

/-- On a window that ends at a boundary the scanner of a form consumes, from any boundary on, what
the pattern matches. -/
theorem Form.scanner_consumes_match (rules : Rules β) (depth lookahead : Nat) (f : Form) {env : Env}
    {w : Window} {s : State β} (input : env.input = .chars w)
    (ends : Text.IsBoundary w.source w.stop) (stands : Text.IsBoundary w.source s.offset)
    (inside : s.offset ≤ w.stop) :
    (∀ e, f.pattern = .error e → (f.scanner : Except BoundsError (Scanner β)) = .error e) ∧
      ∀ p, f.pattern = .ok p → ∃ q : Scanner β, f.scanner = .ok q ∧
        let o := q.eval (rules.calls depth) env lookahead s
        match p.matchAt w.source s.offset w.stop with
        | some l => o.reply = .ok () ∧ o.state.offset = s.offset + l
        | none => o.reply = .error .fail ∧ o.state.offset = s.offset := by
  have alike := f.translates (rules.calls depth) input
  generalize f.pattern = made at alike ⊢
  generalize f.scanner = made' at alike ⊢
  cases alike with
  | error e =>
    refine ⟨fun _ same => ?_, fun _ absurd => by cases absurd⟩
    cases same
    rfl
  | @ok p q both =>
    refine ⟨fun _ absurd => (by cases absurd), fun _ same => ⟨q, rfl, ?_⟩⟩
    cases same
    obtain ⟨rest, cut⟩ :=
      Option.isSome_iff_exists.1 (Text.slice?_isSome_iff.2 ⟨inside, stands, ends⟩)
    have here : w.rest? s.offset = some rest := (Window.rest?_eq_slice? w _).trans cut
    have result : p.matchAt w.source s.offset w.stop = p.run rest := by
      rw [Pattern.matchAt, cut, Option.bind_some]
    simp only [both.level, result]
    rcases both.mirrors.step here with
      ⟨misses, t, run, still⟩ | ⟨d, rest', v, t, rfl, matched, run, offset, -⟩
    · rw [misses, run]
      exact ⟨rfl, still⟩
    · rw [matched, run]
      exact ⟨rfl, offset⟩

theorem Form.accented_consumes_match :
    let digit : Form := .atom (.inClass CharClass.digit) "digit"
    let f : Form := .ifElse (.atom (.char 'é') "é") (.between 1 2 digit) (.not digit)
    let env := Env.ofRange "xé75".toList 5 "range" (PositionMap.ofSource [])
    let w := Window.make "xé75".toList 5
    let s : State Nat := env.stateAt ⟨1, 0⟩
    env.input = .chars w ∧ Text.IsBoundary w.source w.stop ∧ Text.IsBoundary w.source s.offset ∧
      s.offset ≤ w.stop ∧
      ∃ p, f.pattern = .ok p ∧ ∃ q : Scanner Nat, f.scanner = .ok q ∧
        (q.eval (Rules.calls [] 0) env 1 s).reply = .ok () ∧
        (q.eval (Rules.calls [] 0) env 1 s).state.offset = 5 := by
  intro digit f env w s
  have input : env.input = .chars w := rfl
  have ends : Text.IsBoundary w.source w.stop := ⟨"xé75".toList, [], rfl, rfl⟩
  have stands : Text.IsBoundary w.source s.offset := ⟨['x'], "é75".toList, rfl, rfl⟩
  have inside : s.offset ≤ w.stop := by decide
  refine ⟨input, ends, stands, inside, _, rfl, ?_⟩
  obtain ⟨-, consumes⟩ := scanner_consumes_match [] 0 1 f input ends stands inside
  obtain ⟨q, made, moved⟩ := consumes _ rfl
  exact ⟨q, made, moved⟩

theorem Form.optional_succeeds_in_split_window :
    let f : Form := .optional (.atom (.char 'x') "x")
    let env := Env.ofRange ['é'] 1 "split" (PositionMap.ofSource [])
    ∃ (p : Pattern) (q : Scanner Nat), f.pattern = .ok p ∧ f.scanner = .ok q ∧
      p.matchAt ['é'] 0 env.stop = none ∧
      (q.eval (Rules.calls [] 0) env 1 (env.stateAt .start)).reply = .ok () :=
  ⟨_, _, rfl, rfl, rfl, rfl⟩

end Descent
