import Descent.Proofs.Parser.BlockComment
import Descent.Proofs.Parser.Combinators

set_option autoImplicit false

namespace Descent

open Text (size)
open Matcher (ReadsUpTo text throughFirst)

/-- What may stand between tokens. -/
inductive Filler where
  | blanks
  | line (opening : String)
  | block (opening closing : String)
  deriving DecidableEq, Repr

namespace Filler

def opens : Filler → List Char → Bool
  | blanks, s => s.head?.any CharClass.blank.test
  | line opening, s => opening.toList.isPrefixOf s
  | block opening _, s => opening.toList.isPrefixOf s

def Fills : Filler → List Char → List Char → Prop
  | blanks, t, r => t ≠ [] ∧ (∀ c ∈ t, CharClass.blank.test c = true) ∧
      ∀ c ∈ r.head?, CharClass.blank.test c = false
  | line opening, t, r => ∃ b, t = opening.toList ++ b ∧ '\n' ∉ b ∧ ∀ c ∈ r.head?, c = '\n'
  | block opening closing, t, r => ∃ b, t = opening.toList ++ (b ++ closing.toList) ∧
      ∀ b' r', b ++ (closing.toList ++ r) = b' ++ (closing.toList ++ r') → b.length ≤ b'.length

def Unclosed : Filler → List Char → Prop
  | block opening closing, s => opening.toList <+: s ∧
      ∀ b r, s ≠ opening.toList ++ (b ++ (closing.toList ++ r))
  | _, _ => False

def matcher : Filler → Matcher
  | blanks => (Pattern.atLeastOf 1 CharClass.blank).run
  | line opening => (Pattern.lineComment opening).run
  | block opening closing => (text opening.toList).andThen (throughFirst closing.toList)

variable {f : Filler} {s t r t' r' : List Char}

theorem matcher_recognizes (f : Filler) : f.matcher.Recognizes f.Fills := by
  cases f with
  | blanks =>
    rw [matcher, Pattern.atLeastOf, Pattern.run]
    refine (Matcher.repeatedWhere_recognizes _ 1).congr fun t r => ?_
    simp only [Fills, Nat.one_le_iff_ne_zero, ne_eq, List.length_eq_zero_iff]
  | line opening =>
    rw [matcher, Pattern.lineComment, Pattern.andThen_run, Pattern.string, Pattern.run,
      Pattern.manyOf, Pattern.run]
    refine ((Matcher.text_recognizes _).andThen
      (Matcher.repeatedWhere_recognizes _ 0)).congr fun t r => ?_
    constructor
    · rintro ⟨_, b, rfl, rfl, -, body, last⟩
      refine ⟨b, rfl, fun newline => ?_, fun c first => ?_⟩
      · simpa [CharClass.except] using body _ newline
      · simpa [CharClass.except] using last c first
    · rintro ⟨b, rfl, body, last⟩
      refine ⟨_, b, rfl, rfl, Nat.zero_le _, fun c member => ?_, fun c first => ?_⟩
      · have other : c ≠ '\n' := fun newline => body (newline ▸ member)
        simpa [CharClass.except] using other
      · simpa [CharClass.except] using last c first
  | block opening closing =>
    intro s n
    rcases Matcher.opened_cases opening.toList closing.toList s with
      ⟨misses, nowhere⟩ | ⟨b, r, rfl, found, first⟩
    · rw [matcher, misses]
      constructor
      · rintro ⟨⟩
      · rintro ⟨_, r, rfl, -, b, rfl, -⟩
        exact absurd (by simp) (nowhere b r)
    · rw [matcher, found]
      constructor
      · rintro ⟨⟩
        exact ⟨_, r, by simp, rfl, b, rfl, first⟩
      · rintro ⟨_, r', same, rfl, b', rfl, first'⟩
        have rest : b ++ (closing.toList ++ r) = b' ++ (closing.toList ++ r') := by simpa using same
        have length := Nat.le_antisymm (first b' r' rest) (first' b r rest.symm)
        rw [(List.append_inj rest length).1]

theorem Fills.unique (fills : f.Fills t r) (fills' : f.Fills t' r') (same : t ++ r = t' ++ r') :
    t = t' :=
  f.matcher_recognizes.unique fills fills' same

theorem Unclosed.misses (unclosed : f.Unclosed s) : f.matcher s = none := by
  cases f with
  | blanks => exact unclosed.elim
  | line _ => exact unclosed.elim
  | block opening closing =>
    rcases Matcher.opened_cases opening.toList closing.toList s with ⟨misses, -⟩ | ⟨b, r, same, -⟩
    · exact misses
    · exact absurd same (unclosed.2 b r)

theorem misses_of_not_opens (shut : f.opens s = false) : f.matcher s = none := by
  cases f with
  | blanks =>
    rw [matcher, Pattern.atLeastOf, Pattern.run, Matcher.repeatedWhere_eq]
    cases s with
    | nil => rfl
    | cons c s =>
      have other : CharClass.blank.test c = false := by simpa [opens] using shut
      simp [other]
  | line opening =>
    rw [opens] at shut
    simp [matcher, Pattern.lineComment, Pattern.andThen_run, Pattern.string, Pattern.run,
      Matcher.andThen, text, shut]
  | block opening closing =>
    rw [opens] at shut
    simp [matcher, Matcher.andThen, text, shut]

theorem unclosed_of_misses (begins : f.opens s = true) (misses : f.matcher s = none) :
    f.Unclosed s := by
  cases f with
  | blanks =>
    rw [matcher, Pattern.atLeastOf, Pattern.run, Matcher.repeatedWhere_eq] at misses
    cases s with
    | nil => cases begins
    | cons c s =>
      have blank : CharClass.blank.test c = true := by simpa [opens] using begins
      simp [blank] at misses
  | line opening =>
    obtain ⟨r, rfl⟩ := List.isPrefixOf_iff_prefix.1 begins
    simp [matcher, Pattern.lineComment, Pattern.andThen_run, Pattern.string, Pattern.run,
      Pattern.manyOf, Matcher.andThen, Matcher.after, text, Text.drop?_size_append,
      Matcher.repeatedWhere_eq] at misses
  | block opening closing =>
    refine ⟨List.isPrefixOf_iff_prefix.1 begins, fun b r same => ?_⟩
    rcases Matcher.opened_cases opening.toList closing.toList s with
      ⟨-, nowhere⟩ | ⟨_, _, -, found, -⟩
    · exact nowhere b r same
    · cases misses.symm.trans found

end Filler

/-- A text of such forms, with `r` after it: at each place the first form that begins there. -/
inductive Filling (forms : List Filler) : List Char → List Char → Prop
  | empty (r : List Char) : Filling forms [] r
  | next {f : Filler} {t u r : List Char} (chosen : forms.find? (·.opens (t ++ (u ++ r))) = some f)
      (fills : f.Fills t (u ++ r)) (rest : Filling forms u r) : Filling forms (t ++ u) r

/-- None of the forms begins here, or the one that does is not closed. -/
def Filler.Halts (forms : List Filler) (s : List Char) : Prop :=
  ∀ f, forms.find? (·.opens s) = some f → f.Unclosed s

theorem Filling.eq_nil {forms : List Filler} {t r : List Char} (filling : Filling forms t r)
    (nothing : forms.find? (·.opens (t ++ r)) = none) : t = [] := by
  cases filling with
  | empty => rfl
  | next chosen =>
    rw [List.append_assoc, chosen] at nothing
    cases nothing

theorem Filling.unique {forms : List Filler} {t r t' r' : List Char} (filling : Filling forms t r)
    (filling' : Filling forms t' r') (halts : Filler.Halts forms r)
    (halts' : Filler.Halts forms r') (same : t ++ r = t' ++ r') : r = r' := by
  induction filling generalizing t' with
  | empty r =>
    cases filling' with
    | empty => exact same
    | @next f t u _ chosen fills rest =>
      have here : r = t ++ (u ++ r') := same.trans (List.append_assoc ..)
      have misses := (halts f (here ▸ chosen)).misses
      rw [here, f.matcher_recognizes.iff_related.2 fills] at misses
      cases misses
  | @next f t u r chosen fills rest ih =>
    rw [List.append_assoc] at same
    cases filling' with
    | empty =>
      rw [List.nil_append] at same
      have misses := (halts' f (same ▸ chosen)).misses
      rw [← same, f.matcher_recognizes.iff_related.2 fills] at misses
      cases misses
    | @next f' t' u' _ chosen' fills' rest' =>
      rw [List.append_assoc] at same
      -- The text decides which form is taken, and how much of it.
      obtain rfl : f = f' := by
        rw [same, chosen'] at chosen
        exact (Option.some.inj chosen).symm
      obtain rfl := fills.unique fills' same
      exact ih rest' halts (List.append_cancel_left same)

namespace Action

variable {β : Type} {a b : Ty} {env : Env} {w : Window} {forms : List Filler} {f : Filler}

def Forward (env : Env) (x : Action β a) : Prop :=
  ∀ s : State β,
    s.offset ≤ (x.run env s).state.offset ∧ s.steps ≤ (x.run env s).state.steps

theorem forward_ret (v : a.Value β) : (ret v).Forward env :=
  fun _ => ⟨Nat.le_refl _, Nat.le_refl _⟩

theorem forward_pattern (input : env.input = .chars w) (p : Pattern) (l : String) :
    (pattern p l : Action β .unit).Forward env := by
  intro s
  rcases pattern_cases input p l s with ⟨-, t, failed, still⟩ | ⟨k, -, ran⟩
  · rw [failed]
    simp [State.offset, State.steps, still]
  · rw [ran]
    refine ⟨Nat.le_add_right _ _, ?_⟩
    simp only [State.skip, State.steps]
    split <;> omega

theorem Forward.bind {x : Action β a} {g : a.Value β → Action β b} (first : x.Forward env)
    (next : ∀ v, (g v).Forward env) : (Action.bind x g).Forward env := by
  intro s
  have ahead := first s
  rw [run_bind]
  generalize x.run env s = o at ahead ⊢
  rcases o with ⟨_ | v, t⟩
  · exact ahead
  · have further := next v t
    exact ⟨Nat.le_trans ahead.1 further.1, Nat.le_trans ahead.2 further.2⟩

structure Skips (env : Env) (w : Window) (x : Action β .unit) (f : Filler) : Prop where
  scans : x.Scans env w f.matcher
  moves : f.matcher.Moves
  fails : ∀ s t : State β, x.run env s = ⟨.error .fail, t⟩ →
    if f.opens (w.rest s.offset) then t.cursor.committedFrom s.cursor defaultLookahead = true
    else t.offset = s.offset

inductive Attempt (forms : List Filler) (w : Window) (start : Cursor) : Outcome β .unit → Prop
  | refused (t : State β) (nothing : forms.find? (·.opens (w.rest start.offset)) = none)
      (still : t.offset = start.offset) : Attempt forms w start ⟨.error .fail, t⟩
  | taken {f : Filler} {p r : List Char} (t : State β) (here : w.rest? start.offset = some (p ++ r))
      (chosen : forms.find? (·.opens (p ++ r)) = some f) (fills : f.Fills p r) (some : p ≠ [])
      (offset : t.offset = start.offset + size p) : Attempt forms w start ⟨.ok (), t⟩
  | broken {f : Filler} (t : State β)
      (chosen : forms.find? (·.opens (w.rest start.offset)) = some f)
      (unclosed : f.Unclosed (w.rest start.offset))
      (committed : t.cursor.committedFrom start defaultLookahead = true) :
      Attempt forms w start ⟨.error .fail, t⟩

theorem Skips.attempt {x : Action β .unit} (skips : x.Skips env w f) (s : State β) :
    Attempt [f] w s.cursor (x.run env s) := by
  have failed_of (t : State β) (failed : x.run env s = ⟨.error .fail, t⟩)
      (misses : f.matcher (w.rest s.offset) = none) : Attempt [f] w s.cursor ⟨.error .fail, t⟩ := by
    have fails := skips.fails s t failed
    by_cases opens : f.opens (w.rest s.offset) = true
    · rw [if_pos opens] at fails
      exact .broken t (List.find?_cons_of_pos opens) (Filler.unclosed_of_misses opens misses) fails
    · rw [if_neg opens] at fails
      exact .refused t (by simpa [State.offset] using opens) fails
  cases here : w.rest? s.offset with
  | none =>
    obtain ⟨t, failed⟩ := skips.scans.blind s here
    rw [failed]
    refine failed_of t failed ?_
    rw [Window.rest, here, Option.getD_none]
    exact skips.moves.nil skips.scans.fits
  | some rest =>
    have text := Window.rest_of_rest? here
    have echo := skips.scans.echoes s rest here
    generalize ran : x.run env s = o at echo ⊢
    cases found : f.matcher rest with
    | none =>
      rw [found] at echo
      cases echo with
      | missed t => exact failed_of t ran (text ▸ found)
    | some k =>
      obtain ⟨p, r, rfl, rfl, fills⟩ := (f.matcher_recognizes rest k).1 found
      rw [found] at echo
      cases echo with
      | found v t offset =>
        have opens : f.opens (p ++ r) = true := by
          by_contra shut
          cases found.symm.trans (Filler.misses_of_not_opens (by simpa using shut))
        have some : p ≠ [] := by
          rintro rfl
          exact absurd (skips.moves _ _ found) (by simp)
        exact .taken t here (List.find?_cons_of_pos opens) fills some offset

theorem Attempt.later {start : Cursor} {o : Outcome β .unit}
    (shut : f.opens (w.rest start.offset) = false) (attempt : Attempt forms w start o) :
    Attempt (f :: forms) w start o := by
  have skipped (g : Option Filler) (chosen : forms.find? (·.opens (w.rest start.offset)) = g) :
      (f :: forms).find? (·.opens (w.rest start.offset)) = g := by simpa [shut] using chosen
  cases attempt with
  | refused t nothing still => exact .refused t (skipped _ nothing) still
  | taken t here chosen fills some offset =>
    have text := Window.rest_of_rest? here
    exact .taken t here (text ▸ skipped _ (text ▸ chosen)) fills some offset
  | broken t chosen unclosed committed => exact .broken t (skipped _ chosen) unclosed committed

theorem sumFrom_attempt {xs : List (Action β .unit)}
    (parts : List.Forall₂ (Skips env w) xs forms) (s : State β) :
    Attempt forms w s.cursor (sumFrom env defaultLookahead s.cursor xs s) := by
  induction parts generalizing s with
  | nil => exact .refused s rfl rfl
  | @cons x f xs forms first _ ih =>
    have sooner {g : Filler} (u : List Char) (chosen : [f].find? (·.opens u) = some g) :
        (f :: forms).find? (·.opens u) = some g := by
      rw [← List.singleton_append, List.find?_append, chosen, Option.some_or]
    have attempt := first.attempt s
    rw [sumFrom]
    generalize x.run env s = o at attempt ⊢
    cases attempt with
    | refused t nothing still =>
      have shut : f.opens (w.rest s.cursor.offset) = false := by simpa using nothing
      have uncommitted : ¬ t.cursor.committedFrom s.cursor defaultLookahead = true := by
        simp [Cursor.committedFrom, State.unmoved still]
      have later := ih ((t.mergeError s.error).restore s.cursor)
      simp only [orElse, if_neg uncommitted]
      exact later.later shut
    | taken t here chosen fills some offset =>
      exact .taken t here (sooner _ chosen) fills some offset
    | broken t chosen unclosed committed =>
      simp only [orElse, if_pos committed]
      exact .broken t (sooner _ chosen) unclosed committed

inductive Sweep (forms : List Filler) (w : Window) (start : Cursor) : Outcome β .unit → Prop
  | stopped {p : List Char} (t : State β) (passed : w.rest start.offset = p ++ w.rest t.offset)
      (filling : Filling forms p (w.rest t.offset)) (offset : t.offset = start.offset + size p)
      (nothing : forms.find? (·.opens (w.rest t.offset)) = none)
      (still : p = [] → t.cursor = start) : Sweep forms w start ⟨.ok (), t⟩
  | broken {f : Filler} {p r : List Char} (t : State β) (passed : w.rest start.offset = p ++ r)
      (filling : Filling forms p r) (chosen : forms.find? (·.opens r) = some f)
      (unclosed : f.Unclosed r) : Sweep forms w start ⟨.error .fail, t⟩

theorem Sweep.after {start u : Cursor} {o : Outcome β .unit} {p r : List Char}
    (here : w.rest? start.offset = some (p ++ r))
    (chosen : forms.find? (·.opens (p ++ r)) = some f) (fills : f.Fills p r) (some : p ≠ [])
    (offset : u.offset = start.offset + size p) (sweep : Sweep forms w u o) :
    Sweep forms w start o := by
  have text := Window.rest_of_rest? here
  have next : w.rest u.offset = r := by
    rw [offset]
    exact Window.rest_of_rest? (Window.rest?_append here)
  cases sweep with
  | @stopped q t passed filling further nothing still =>
    obtain rfl : r = q ++ w.rest t.offset := next.symm.trans passed
    refine .stopped t (by rw [text, List.append_assoc]) (.next chosen fills filling) ?_ nothing ?_
    · rw [further, offset, Text.size_append, Nat.add_assoc]
    · exact fun empty => absurd (List.append_eq_nil_iff.1 empty).1 some
  | @broken g q r' t passed filling chosen' unclosed =>
    obtain rfl : r = q ++ r' := next.symm.trans passed
    exact .broken t (by rw [text, List.append_assoc]) (.next chosen fills filling) chosen' unclosed

theorem loopFrom_sweeps {x : Action β .unit} {finish : List Unit → Unit}
    (attempts : ∀ s, Attempt forms w s.cursor (x.run env s)) {fuel count : Nat}
    {values : List Unit} {s : State β} (enough : size (w.rest s.offset) < fuel) :
    Sweep forms w s.cursor
      (loopFrom (a := .unit) (b := .unit) x 0 none finish env fuel count values s) := by
  induction fuel generalizing count values s with
  | zero => omega
  | succ fuel ih =>
    have attempt := attempts s
    simp only [loopFrom, reduceCtorEq, if_false, Nat.zero_le, decide_true, Bool.true_and,
      Nat.not_lt_zero, decide_false, Bool.false_or]
    generalize x.run env s = o at attempt ⊢
    cases attempt with
    | refused t nothing still =>
      have unmoved : ¬ t.cursor.movedFrom s.cursor = true := by simp [State.unmoved still]
      simp only [if_neg unmoved]
      exact .stopped (t.restore s.cursor) rfl (.empty _) rfl nothing fun _ => rfl
    | @taken f p r t here chosen fills some offset =>
      have taken := Text.size_pos some
      have moved : t.cursor.movedFrom s.cursor = true := by
        simp only [Cursor.movedFrom, bne_iff_ne]
        exact fun same => by simp only [State.offset] at offset; omega
      have next : w.rest t.offset = r := by
        rw [offset]
        exact Window.rest_of_rest? (Window.rest?_append here)
      have shorter : size (w.rest t.offset) < fuel := by
        rw [next]
        rw [State.offset, Window.rest_of_rest? here, Text.size_append] at enough
        omega
      simp only [moved, Bool.not_true, Bool.false_eq_true, if_false]
      exact (ih shorter).after here chosen fills some offset
    | broken t chosen unclosed committed =>
      have moved : t.cursor.movedFrom s.cursor = true := (Bool.and_eq_true_iff.1 committed).1
      simp only [if_pos moved]
      exact .broken t rfl (.empty _) chosen unclosed

theorem pattern_skips (input : env.input = .chars w) {p : Pattern} (l : String)
    (same : p.run = f.matcher) (moves : f.matcher.Moves) (closed : ∀ s, ¬ f.Unclosed s) :
    (pattern p l : Action β .unit).Skips env w f where
  scans := same ▸ Scans.pattern input p l
  moves := moves
  fails := by
    intro s t failed
    rcases pattern_cases input p l s with ⟨misses, u, ran, still⟩ | ⟨k, -, ran⟩
    · rw [same, Window.bind_rest? (moves.nil f.matcher_recognizes.fits)] at misses
      have shut : ¬ f.opens (w.rest s.offset) = true :=
        fun opens => closed _ (Filler.unclosed_of_misses opens misses)
      rw [if_neg shut]
      cases ran.symm.trans failed
      exact congrArg Cursor.offset still
    · cases ran.symm.trans failed

theorem opened_fails (input : env.input = .chars w) {opening : List Char} {p : Pattern}
    (l : String) {g : Unit → Action β .unit} (moves : p.run.Moves)
    (begins : ∀ s, (p.run s).isSome = opening.isPrefixOf s) (forward : ∀ v, (g v).Forward env)
    {s t : State β} (failed : (Action.bind (pattern p l) g).run env s = ⟨.error .fail, t⟩) :
    if opening.isPrefixOf (w.rest s.offset) then
      t.cursor.committedFrom s.cursor defaultLookahead = true
    else t.offset = s.offset := by
  rw [run_bind] at failed
  rw [← begins, ← Window.bind_rest? (moves.nil p.run_fits)]
  rcases pattern_cases input p l s with ⟨misses, u, ran, still⟩ | ⟨k, matched, ran⟩
  · rw [ran] at failed
    cases failed
    rw [misses]
    exact congrArg Cursor.offset still
  · rw [ran] at failed
    obtain ⟨rest, -, took⟩ := Option.bind_eq_some_iff.1 matched
    have some : 0 < k := moves rest k took
    have ahead := forward () (s.skip k)
    have ended : (g ()).run env (s.skip k) = ⟨.error .fail, t⟩ := failed
    rw [ended] at ahead
    simp only [State.skip, State.offset, State.steps, if_neg (Nat.ne_of_gt some)] at ahead
    rw [matched, Option.isSome_some, if_pos rfl, Cursor.committedFrom, Bool.and_eq_true,
      Cursor.movedFrom, bne_iff_ne, decide_eq_true_iff, Cursor.stepsFrom, defaultLookahead]
    omega

theorem named_run_of_fail {x : Action β .unit} {name : String} {s t : State β}
    (failed : (named name x).run env s = ⟨.error .fail, t⟩) : x.run env s = ⟨.error .fail, t⟩ := by
  simp only [run, named] at failed ⊢
  split at failed
  · cases failed
  · exact failed

theorem Skips.named {x : Action β .unit} (skips : x.Skips env w f) (name : String) :
    (Action.named name x).Skips env w f where
  scans := skips.scans.named name
  moves := skips.moves
  fails s t failed := skips.fails s t (named_run_of_fail failed)

end Action

namespace Scanner

open Descent.Action

variable {β : Type} {calls : Calls β} {env : Env} {w : Window} {forms : List Filler}
  {line opening closing : String} {body : Pattern}

theorem toList_ne_nil {s : String} (some : s ≠ "") : s.toList ≠ [] :=
  fun empty => some (String.toList_eq_nil_iff.1 empty)

theorem blanks_skips (input : env.input = .chars w) :
    ((blanks : Scanner β).eval calls).Skips env w .blanks :=
  pattern_skips input _ rfl (Matcher.repeatedWhere_moves _ Nat.one_pos) fun _ => id

theorem lineComment_skips (input : env.input = .chars w) (some : line ≠ "") :
    ((lineComment line : Scanner β).eval calls).Skips env w (.line line) := by
  refine pattern_skips input _ rfl ?_ fun _ => id
  rw [Filler.matcher, Pattern.lineComment, Pattern.andThen_run, Pattern.string, Pattern.run]
  exact (Matcher.text_moves (toList_ne_nil some)).andThen _

theorem openedBody_skips (input : env.input = .chars w) (some : opening ≠ "")
    (reads : ReadsUpTo closing.toList body.run) (l : String) :
    ((Parser.seqRight (.pattern (Pattern.andThen (Pattern.string opening) (.many 0 body)) l)
      (string closing) : Scanner β).eval calls).Skips env w (.block opening closing) where
  scans := openedBody_scans input reads l
  moves := (Matcher.text_moves (toList_ne_nil some)).andThen _
  fails := by
    have run : (Pattern.andThen (Pattern.string opening) (.many 0 body)).run =
        (text opening.toList).andThen (Matcher.repeated body.run 0 none) := by
      rw [Pattern.andThen_run, Pattern.string, Pattern.run, Pattern.run]
    intro s t
    refine opened_fails input l ?_ (fun s => ?_) (fun _ => forward_pattern input _ _)
    · rw [run]
      exact (Matcher.text_moves (toList_ne_nil some)).andThen _
    · rw [run]
      cases begins : opening.toList.isPrefixOf s with
      | false => simp [Matcher.andThen, text, begins]
      | true =>
        obtain ⟨r, rfl⟩ := List.isPrefixOf_iff_prefix.1 begins
        simp [Matcher.andThen, text, Matcher.after, Text.drop?_size_append, Matcher.repeated_open]

theorem openingAndBody_skips (input : env.input = .chars w) (some : opening ≠ "")
    (reads : ReadsUpTo closing.toList body.run) (l : String) :
    ((Parser.sequence () [string opening, .pattern (.many 0 body) l, string closing] :
      Scanner β).eval calls).Skips env w (.block opening closing) where
  scans := openingAndBody_scans input reads l
  moves := (Matcher.text_moves (toList_ne_nil some)).andThen _
  fails := by
    have moves : (Pattern.string opening).run.Moves := by
      rw [Pattern.string, Pattern.run]
      exact Matcher.text_moves (toList_ne_nil some)
    intro s t
    refine opened_fails input opening moves (fun s => ?_) fun _ => ?_
    · rw [Pattern.string, Pattern.run]
      cases begins : opening.toList.isPrefixOf s <;> simp [text, begins]
    · exact (forward_pattern input _ _).bind fun _ =>
        (forward_pattern input _ _).bind fun _ => forward_ret _

theorem delimiter_sweeps (input : env.input = .chars w) (name : String) {ps : List (Scanner β)}
    (parts : List.Forall₂ (fun p f => p.branches = [p] ∧ (p.eval calls).Skips env w f) ps forms)
    (n : Nat) (s : State β) : Sweep forms w s.cursor ((delimiter name ps).eval calls env n s) := by
  have branches : List.Forall₂ (Skips env w) (ps.flatMap (Parser.actions calls)) forms := by
    induction parts with
    | nil => exact .nil
    | cons first _ ih =>
      rw [List.flatMap_cons, Parser.actions, first.1]
      exact .cons first.2 ih
  have attempts (s : State β) :
      Attempt forms w s.cursor (((Parser.plus ps).eval calls).run env s) := by
    rw [Parser.eval_plus]
    exact sumFrom_attempt branches s
  have enough : size (w.rest s.offset) < 0 + (env.stop - s.offset) + 2 := by
    have stop : env.stop = w.stop := by simp only [Env.stop, input]
    rw [stop]
    cases here : w.rest? s.offset with
    | none => simp [Window.rest, here]
    | some r =>
      rw [Window.rest_of_rest? here, ← Window.size_rest? here]
      omega
  have sweep : Sweep forms w s.cursor
      ((Parser.skipMany (Parser.plus ps) : Scanner β).eval calls env n s) :=
    loopFrom_sweeps attempts enough
  have named : (delimiter name ps).eval calls env n s =
      Action.named name ((Parser.skipMany (Parser.plus ps)).eval calls) env n s := rfl
  rw [named, Action.named]
  generalize (Parser.skipMany (Parser.plus ps) : Scanner β).eval calls env n s = o at sweep ⊢
  cases sweep with
  | stopped t passed filling offset nothing still =>
    exact .stopped t passed filling offset nothing still
  | broken t passed filling chosen unclosed => exact .broken t passed filling chosen unclosed

def Delimits (p : Scanner β) (forms : List Filler) : Prop :=
  ∀ (calls : Calls β) (w : Window) (origin : String) (positions : PositionMap) (n : Nat)
    (s : State β),
    let run := p.eval calls ⟨.chars w, origin, positions⟩
    ((∃ t, run n s = ⟨.ok (), t⟩) ∨ ∃ t, run n s = ⟨.error .fail, t⟩) ∧
      ((∃ t, run n s = ⟨.error .fail, t⟩) ↔
        ∃ t r f, w.rest s.offset = t ++ r ∧ Filling forms t r ∧
          forms.find? (·.opens r) = some f ∧ f.Unclosed r) ∧
      ∀ u, run n s = ⟨.ok (), u⟩ →
        (∃ t, w.rest s.offset = t ++ w.rest u.offset ∧ Filling forms t (w.rest u.offset) ∧
          u.offset = s.offset + size t) ∧
        (∀ f ∈ forms, f.opens (w.rest u.offset) = false) ∧
        ∀ m v, v.offset = u.offset → ∃ v', run m v = ⟨.ok (), v'⟩ ∧ v'.cursor = v.cursor

theorem delimits_of_sweeps {p : Scanner β}
    (sweeps : ∀ (calls : Calls β) (w : Window) (origin : String) (positions : PositionMap)
      (n : Nat) (s : State β),
      Sweep forms w s.cursor (p.eval calls ⟨.chars w, origin, positions⟩ n s)) :
    p.Delimits forms := by
  intro calls w origin positions n s run
  have sweep := sweeps calls w origin positions n s
  show (((∃ t, run n s = _) ∨ _) ∧ _)
  have ran : run n s = p.eval calls ⟨.chars w, origin, positions⟩ n s := rfl
  rw [ran]
  generalize p.eval calls ⟨.chars w, origin, positions⟩ n s = o at sweep
  cases sweep with
  | @stopped q t passed filling offset nothing still =>
    refine ⟨.inl ⟨t, rfl⟩, ⟨?_, ?_⟩, ?_⟩
    · rintro ⟨u, ⟨⟩⟩
    · rintro ⟨q', r, f, passed', filling', chosen, unclosed⟩
      have halts : Filler.Halts forms (w.rest t.offset) := by simp [Filler.Halts, nothing]
      have halts' : Filler.Halts forms r := by
        intro g other
        obtain rfl := Option.some.inj (chosen.symm.trans other)
        exact unclosed
      rw [filling.unique filling' halts halts' (passed.symm.trans passed'), chosen] at nothing
      cases nothing
    · rintro u ⟨⟩
      refine ⟨⟨q, passed, filling, offset⟩, by simpa using nothing, fun m v same => ?_⟩
      have again := sweeps calls w origin positions m v
      rw [← same, State.offset] at nothing
      show ∃ v', p.eval calls ⟨.chars w, origin, positions⟩ m v = _ ∧ _
      generalize p.eval calls ⟨.chars w, origin, positions⟩ m v = o at again
      cases again with
      | stopped v' passed' filling' _ _ still' =>
        exact ⟨v', rfl, still' (filling'.eq_nil (passed' ▸ nothing))⟩
      | broken v' passed' filling' chosen' =>
        have empty := filling'.eq_nil (passed' ▸ nothing)
        rw [passed', empty, List.nil_append, chosen'] at nothing
        cases nothing
  | @broken f q r t passed filling chosen unclosed =>
    refine ⟨.inr ⟨t, rfl⟩, ⟨fun _ => ⟨q, r, f, passed, filling, chosen, unclosed⟩,
      fun _ => ⟨t, rfl⟩⟩, ?_⟩
    rintro u ⟨⟩

/-- Delimiters go through blanks and comments to the end. -/
theorem delimiters_exhaust :
    (javaDelimiter : Scanner β).Delimits [.blanks, .line "//", .block "/*" "*/"] ∧
      (haskellDelimiter : Scanner β).Delimits [.blanks, .block "\x7b-" "-\x7d", .line "--"] ∧
      (sqlDelimiter : Scanner β).Delimits [.blanks, .line "--", .block "/*" "*/"] ∧
      ∀ line opening closing : String, line ≠ "" → opening ≠ "" →
        (stdDelimiter line opening closing : Scanner β).Delimits
          [.blanks, .line line, .block opening closing] := by
  have java : ReadsUpTo "*/".toList (notPair '*' '/').run := Matcher.notPair_readsUpTo '*' '/'
  have haskell : ReadsUpTo "-\x7d".toList (notPair '-' '\x7d').run :=
    Matcher.notPair_readsUpTo '-' '\x7d'
  have refusing (closing : String) :
      ReadsUpTo closing.toList (Pattern.notString closing).run := by
    rw [Pattern.notString, Pattern.run]
    exact Matcher.except_readsUpTo closing.toList
  refine ⟨?_, ?_, ?_, fun line opening closing someLine someOpening => ?_⟩
  · refine delimits_of_sweeps fun calls w _ _ => delimiter_sweeps rfl _ ?_
    exact .cons ⟨rfl, blanks_skips rfl⟩ (.cons ⟨rfl, lineComment_skips rfl (by decide)⟩
      (.cons ⟨rfl, (openingAndBody_skips rfl (by decide) java _).named _⟩ .nil))
  · refine delimits_of_sweeps fun calls w _ _ => delimiter_sweeps rfl _ ?_
    exact .cons ⟨rfl, blanks_skips rfl⟩
      (.cons ⟨rfl, (openingAndBody_skips rfl (by decide) haskell _).named _⟩
        (.cons ⟨rfl, lineComment_skips rfl (by decide)⟩ .nil))
  · refine delimits_of_sweeps fun calls w _ _ => delimiter_sweeps rfl _ ?_
    exact .cons ⟨rfl, blanks_skips rfl⟩ (.cons ⟨rfl, lineComment_skips rfl (by decide)⟩
      (.cons ⟨rfl, (openingAndBody_skips rfl (by decide) java _).named _⟩ .nil))
  · refine delimits_of_sweeps fun calls w _ _ => delimiter_sweeps rfl _ ?_
    exact .cons ⟨rfl, blanks_skips rfl⟩ (.cons ⟨rfl, lineComment_skips rfl someLine⟩
      (.cons ⟨rfl, (openedBody_skips rfl someOpening (refusing closing) _).named _⟩ .nil))

theorem delimiter_fails_at_open_comment :
    let w := Window.make [' ', '-', '-', '/', '*', '\n', '/', '*', 'b'] 9
    "--" ≠ "" ∧ "/*" ≠ "" ∧
      ∃ t, (stdDelimiter "--" "/*" "*/" : Scanner Nat).eval (Rules.calls [] 0)
        ⟨.chars w, "text", PositionMap.ofSource []⟩ 1 ⟨.start, none, none, 0, []⟩ =
          ⟨.error .fail, t⟩ := by
  intro w
  have blank (c : Char) (r : List Char) (passes : CharClass.blank.test c = true)
      (last : ∀ d ∈ r.head?, CharClass.blank.test d = false) : Filler.blanks.Fills [c] r :=
    ⟨List.cons_ne_nil c [], List.forall_mem_singleton.2 passes, last⟩
  have feed : Filling [.blanks, .line "--", .block "/*" "*/"] ['\n'] ['/', '*', 'b'] := by
    refine .next (t := ['\n']) rfl (blank '\n' _ (by decide) ?_) (.empty _)
    rintro d ⟨⟩
    decide
  have line : Filling [.blanks, .line "--", .block "/*" "*/"]
      ['-', '-', '/', '*', '\n'] ['/', '*', 'b'] := by
    refine .next (f := .line "--") (t := ['-', '-', '/', '*']) rfl ⟨['/', '*'], rfl, ?_, ?_⟩ feed
    · decide
    · simp
  have filling : Filling [.blanks, .line "--", .block "/*" "*/"]
      [' ', '-', '-', '/', '*', '\n'] ['/', '*', 'b'] := by
    refine .next (t := [' ']) rfl (blank ' ' _ (by decide) ?_) line
    rintro d ⟨⟩
    decide
  have unclosed : (Filler.block "/*" "*/").Unclosed ['/', '*', 'b'] := by
    refine ⟨by decide, fun b r same => ?_⟩
    have lengths := congrArg List.length same
    simp at lengths
    omega
  have delimits := delimiters_exhaust.2.2.2 "--" "/*" "*/" (by decide) (by decide)
    (Rules.calls [] 0) w "text" (PositionMap.ofSource []) 1
    (⟨.start, none, none, 0, []⟩ : State Nat)
  exact ⟨by decide, by decide, delimits.2.1.2 ⟨_, _, _, by decide +kernel, filling, rfl, unclosed⟩⟩

end Scanner

end Descent
