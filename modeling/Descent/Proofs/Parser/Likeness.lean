import Descent.Proofs.Parser.Input
import Mathlib.Data.List.Forall2

/-!
The places of one run are read as places of the other, in the same order, its tokens as tokens, and
the numbers of its diagnostics as numbers that were given out later or earlier.
-/

set_option autoImplicit false

namespace Descent

variable {β : Type} {a b : Ty}

structure Likeness where
  place : Nat → Nat → Prop
  lexeme : Lexeme → Lexeme → Prop
  first : Nat
  first' : Nat
  exact : Prop
  lt_iff : ∀ {i i' j j'}, place i i' → place j j' → (i < j ↔ i' < j')
  token_eq : ∀ {l l'}, lexeme l l' → l.token = l'.token
  place_eq : exact → ∀ {i i'}, place i i' → i = i'

def Window.Leads (w : Window) (k i : Nat) : Prop :=
  i = k ∨ ∃ p q, w.rest? k = some (p ++ q) ∧ i = k + Text.size p

/-- Windows with the same text from `k` on. Where there is none, as inside a character, a parser can
not move on, and finds out nothing else about the window. -/
inductive Window.Alike (k : Nat) (w w' : Window) : Prop
  | text {r : List Char} (rest : w.rest? k = some r) (rest' : w'.rest? k = some r) : Alike k w w'
  | stuck (rest : w.rest? k = none) (rest' : w'.rest? k = none)
    (here : Text.slice? w.source k k = Text.slice? w'.source k k)
    (room : w.stop - k = w'.stop - k) : Alike k w w'

namespace Window

variable {w w' : Window} {i j k : Nat}

theorem Leads.trans (first : w.Leads k j) (second : w.Leads j i) : w.Leads k i := by
  obtain rfl | ⟨p, q, here, rfl⟩ := first
  · exact second
  · obtain rfl | ⟨p', q', there, rfl⟩ := second
    · exact .inr ⟨p, q, here, rfl⟩
    · obtain rfl : q = p' ++ q' := by simpa [rest?_append here] using there
      refine .inr ⟨p ++ p', q', by rw [here, List.append_assoc], ?_⟩
      rw [Text.size_append, Nat.add_assoc]

theorem Leads.le (leads : w.Leads k i) : k ≤ i := by
  obtain rfl | ⟨p, q, -, rfl⟩ := leads
  · exact Nat.le_refl _
  · exact Nat.le_add_right _ _

theorem Leads.le_stop (leads : w.Leads k i) : i ≤ max k w.stop := by
  obtain rfl | ⟨p, q, here, rfl⟩ := leads
  · exact Nat.le_max_left _ _
  · have length := size_rest? here
    rw [Text.size_append] at length
    omega

theorem rest?_make {source : List Char} (fits : i ≤ Text.size source ∨ Text.size source < k) :
    (make source i).rest? k = Text.slice? source k i := by
  rw [rest?_eq_slice?]
  change Text.slice? source k (min i (Text.size source)) = _
  by_cases inside : i ≤ Text.size source
  · rw [Nat.min_eq_left inside]
  · have past : ∀ n, Text.slice? source k n = none := by
      intro n
      by_contra found
      have boundary := (Text.slice?_isSome_iff.1 (Option.ne_none_iff_isSome.1 found)).2.1
      have := boundary.le_size
      omega
    rw [past, past]

namespace Alike

theorem refl : w.Alike k w := by
  cases rest : w.rest? k with
  | some r => exact .text rest rest
  | none => exact .stuck rest rest rfl rfl

theorem onward (alike : w.Alike k w') (leads : w.Leads k i) : w.Alike i w' := by
  obtain rfl | ⟨p, q, here, rfl⟩ := leads
  · exact alike
  · cases alike with
    | text rest rest' =>
      obtain rfl := Option.some.inj (here.symm.trans rest)
      exact .text (rest?_append rest) (rest?_append rest')
    | stuck rest => simp [rest] at here

theorem rest (alike : w.Alike k w') : w.rest? k = w'.rest? k := by
  cases alike with
  | text rest rest' => rw [rest, rest']
  | stuck rest rest' => rw [rest, rest']

theorem room (alike : w.Alike k w') : w.stop - k = w'.stop - k := by
  cases alike with
  | text rest rest' => rw [← size_rest? rest, ← size_rest? rest']
  | stuck rest rest' here room => exact room

theorem slice (alike : w.Alike k w') (leads : w.Leads k i) :
    Text.slice? w.source k i = Text.slice? w'.source k i := by
  obtain rfl | ⟨p, q, here, rfl⟩ := leads
  · cases alike with
    | text rest rest' =>
      have empty := slice?_of_rest? (p := []) rest
      have empty' := slice?_of_rest? (p := []) rest'
      exact empty.trans empty'.symm
    | stuck rest rest' here => exact here
  · cases alike with
    | text rest rest' =>
      obtain rfl := Option.some.inj (here.symm.trans rest)
      rw [slice?_of_rest? rest, slice?_of_rest? rest']
    | stuck rest => simp [rest] at here

theorem make (alike : w.Alike k w') (leads : w.Leads k i) :
    (Window.make w.source i).Alike k (Window.make w'.source i) := by
  have same := alike.slice leads
  cases read : Text.slice? w.source k i with
  | some p =>
    have fits (v : Window) (cut : Text.slice? v.source k i = some p) :
        (Window.make v.source i).rest? k = some p := by
      have boundary := (Text.slice?_isSome_iff.1 (Option.isSome_iff_exists.2 ⟨p, cut⟩)).2.2
      rw [rest?_make (.inl boundary.le_size), cut]
    exact .text (fits w read) (fits w' (same ▸ read))
  | none =>
    have still : i = k := by
      obtain still | ⟨p, q, here, rfl⟩ := leads
      · exact still
      · rw [slice?_of_rest? here] at read
        cases read
    subst still
    have fits (v : Window) : i ≤ Text.size v.source ∨ Text.size v.source < i := by omega
    refine .stuck ((rest?_make (fits w)).trans read) ((rest?_make (fits w')).trans (same ▸ read))
      same ?_
    simp only [Window.make]
    omega

end Alike

end Window

def Env.Reaches (env : Env) (k i : Nat) : Prop :=
  match env.input with
  | .chars w => w.Leads k i
  | .tokens _ => True

namespace Env.Reaches

variable {env : Env} {i j k : Nat}

theorem refl : env.Reaches k k := by
  unfold Reaches
  split
  · exact .inl rfl
  · trivial

theorem trans (first : env.Reaches k j) (second : env.Reaches j i) : env.Reaches k i := by
  unfold Reaches at first second ⊢
  cases input : env.input with
  | chars w =>
    simp only [input] at first second
    exact first.trans second
  | tokens run => trivial

theorem chars {w : Window} (reaches : env.Reaches k i) (input : env.input = .chars w) :
    w.Leads k i := by
  simpa only [Reaches, input] using reaches

end Env.Reaches

def Ty.tokenless : Ty → Bool
  | .lexeme => false
  | .list a | .option a => a.tokenless
  | .pair a b => a.tokenless && b.tokenless
  | _ => true

def TokenReader.Local (reader : TokenReader) : Prop :=
  ∀ (source source' : List Char) (first length : Nat),
    Text.slice? source first (first + length) = Text.slice? source' first (first + length) →
    reader source first length = reader source' first length

namespace Likeness

variable (L : Likeness)

theorem eq_iff {i i' j j' : Nat} (one : L.place i i') (two : L.place j j') : i = j ↔ i' = j' := by
  have less := L.lt_iff one two
  have more := L.lt_iff two one
  omega

def Values : (a : Ty) → a.Value β → a.Value β → Prop
  | .base, v, v' => v = v'
  | .unit, _, _ => True
  | .nat, n, n' => n = n'
  | .text, s, s' => s = s'
  | .lexeme, l, l' => L.lexeme l l'
  | .list a, vs, vs' => List.Forall₂ (Values a) vs vs'
  | .option a, v, v' => Option.Rel (Values a) v v'
  | .pair a b, v, v' => Values a v.1 v'.1 ∧ Values b v.2 v'.2
  | .unary, f, f' => f = f'
  | .binary, f, f' => f = f'

inductive Typeds : Typed β → Typed β → Prop
  | mk {a : Ty} {v v' : a.Value β} (values : L.Values a v v') : Typeds ⟨a, v⟩ ⟨a, v'⟩

inductive Failures : Failure β → Failure β → Prop
  | signal (key : Key) {c c' : Option (Typed β)} (collected : Option.Rel L.Typeds c c') :
    Failures (.signal ⟨key, c⟩) (.signal ⟨key, c'⟩)
  | user (message : String) {i i' : Option Nat} (place : Option.Rel L.place i i') :
    Failures (.user ⟨message, i⟩) (.user ⟨message, i'⟩)
  | fault {e e' : Exception} (same : L.exact → e = e') : Failures (.fault e) (.fault e')

inductive Results (b : Ty) : Except UserError (b.Value β) → Except UserError (b.Value β) → Prop
  | ok {v v' : b.Value β} (values : L.Values b v v') : Results b (.ok v) (.ok v')
  | error (message : String) {i i' : Option Nat} (place : Option.Rel L.place i i') :
    Results b (.error ⟨message, i⟩) (.error ⟨message, i'⟩)

inductive Recoveries (a : Ty) : Recovery (a.Value β) → Recovery (a.Value β) → Prop
  | value {v v' : a.Value β} (values : L.Values a v v') : Recoveries a (.value v) (.value v')
  | resume : Recoveries a .resume .resume
  | propagate {v v' : Option (a.Value β)} (left : Option.Rel (L.Values a) v v') :
    Recoveries a (.propagate v) (.propagate v')

def Numbers (i i' : Nat) : Prop := i + L.first' = i' + L.first

inductive Diagnostics : Diagnostic → Diagnostic → Prop
  | leaf {i i' k : Nat} {d : Detail} (number : L.Numbers i i') (place : L.place d.index k) :
    Diagnostics (.leaf i d) (.leaf i' { d with index := k })
  | merged {i i' k k' rank : Nat} {d d' e e' : Diagnostic} (number : L.Numbers i i')
    (place : L.place k k') (first : Diagnostics d d') (second : Diagnostics e e') :
    Diagnostics (.merged i k rank d e) (.merged i' k' rank d' e')
  | relabelled {i i' k k' rank : Nat} {l : String} {d d' : Diagnostic} (number : L.Numbers i i')
    (place : L.place k k') (inner : Diagnostics d d') :
    Diagnostics (.relabelled i k rank l d) (.relabelled i' k' rank l d')

structure States (s s' : State β) : Prop where
  cursor : s.cursor = s'.cursor
  error : Option.Rel L.Diagnostics s.error s'.error
  seen : Option.Rel (fun m m' => ∀ slot : Nat, Option.Rel L.Diagnostics m[slot]? m'[slot]?)
    s.seen s'.seen
  number : L.Numbers s.nextId s'.nextId

structure Runs (r r' : TokenRun) : Prop where
  size : r.lexemes.size = r'.lexemes.size
  lexemes : ∀ i : Nat, Option.Rel L.lexeme r.lexemes[i]? r'.lexemes[i]?
  title : r.eofTitle = r'.eofTitle
  render : r.render = r'.render

inductive Inputs (k : Nat) : Input → Input → Prop
  | chars {w w' : Window} (windows : w.Alike k w') : Inputs k (.chars w) (.chars w')
  | tokens {r r' : TokenRun} (runs : L.Runs r r') : Inputs k (.tokens r) (.tokens r')

structure Envs (k : Nat) (env env' : Env) : Prop where
  input : L.Inputs k env.input env'.input
  place : ∀ i, L.place (env.index i) (env'.index i)
  report : L.exact → env.origin = env'.origin ∧ env.positions = env'.positions

/-- Where the first run has too few calls or rounds nothing is said of the other one. -/
inductive Outcomes (env : Env) (s : State β) : Outcome β a → Outcome β a → Prop
  | exhausted (t : State β) (o : Outcome β a) : Outcomes env s ⟨.error .exhausted, t⟩ o
  | fail {t t' : State β} (states : L.States t t') :
    Outcomes env s ⟨.error .fail, t⟩ ⟨.error .fail, t'⟩
  | hard {e e' : Failure β} {t t' : State β} (failures : L.Failures e e') (states : L.States t t')
    (reaches : env.Reaches s.offset t.offset) : Outcomes env s ⟨.error e, t⟩ ⟨.error e', t'⟩
  | ok {v v' : a.Value β} {t t' : State β} (values : L.Values a v v') (states : L.States t t')
    (reaches : env.Reaches s.offset t.offset) : Outcomes env s ⟨.ok v, t⟩ ⟨.ok v', t'⟩

def Actions (x y : Action β a) : Prop :=
  ∀ (env env' : Env) (n : Nat) (s s' : State β), L.Envs s.offset env env' → L.States s s' →
    L.Outcomes env s (x env n s) (y env' n s')

variable {L}

/-- The two runs find out the same: places and tokens are those of the other run. -/
structure Plain (L : Likeness) : Prop where
  place_refl : ∀ i, L.place i i
  lexeme_iff : ∀ {l l'}, L.lexeme l l' ↔ l = l'

theorem Plain.place_iff (plain : L.Plain) {i i' : Nat} : L.place i i' ↔ i = i' := by
  constructor
  · intro place
    have less := L.lt_iff place (plain.place_refl i')
    have more := L.lt_iff (plain.place_refl i') place
    omega
  · rintro rfl
    exact plain.place_refl i

theorem values_iff {a : Ty} (own : a.tokenless = true ∨ ∀ {l l'}, L.lexeme l l' ↔ l = l')
    {v v' : a.Value β} : L.Values a v v' ↔ v = v' := by
  induction a with
  | base | nat | text | unary | binary => exact Iff.rfl
  | unit => exact ⟨fun _ => rfl, fun _ => trivial⟩
  | lexeme => exact (own.resolve_left Bool.false_ne_true)
  | list a ih =>
    have same : (Values L a : a.Value β → a.Value β → Prop) = Eq := by
      funext v v'
      exact propext (ih own)
    simp only [Values, same, List.forall₂_eq_eq_eq]
  | option a ih =>
    constructor
    · rintro (one | _)
      · exact congrArg some ((ih own).1 one)
      · rfl
    · rintro rfl
      cases v with
      | none => exact .none
      | some v => exact .some ((ih own).2 rfl)
  | pair a b ih ih' =>
    have parts : (a.tokenless = true ∨ ∀ {l l'}, L.lexeme l l' ↔ l = l') ∧
        (b.tokenless = true ∨ ∀ {l l'}, L.lexeme l l' ↔ l = l') := by
      rcases own with free | same
      · obtain ⟨first, second⟩ := (Bool.and_eq_true _ _).mp free
        exact ⟨.inl first, .inl second⟩
      · exact ⟨.inr same, .inr same⟩
    simp only [Values, ih parts.1, ih' parts.2, Prod.ext_iff]

theorem Plain.values_iff (plain : L.Plain) {a : Ty} {v v' : a.Value β} :
    L.Values a v v' ↔ v = v' :=
  Likeness.values_iff (.inr plain.lexeme_iff)

theorem Typeds.at? {c c' : Typed β} (typeds : L.Typeds c c') (a : Ty) :
    Option.Rel (L.Values a) (c.at? a) (c'.at? a) := by
  obtain @⟨b, v, v', values⟩ := typeds
  by_cases same : b = a
  · subst same
    rw [Typed.at?_self, Typed.at?_self]
    exact .some values
  · simp only [Typed.at?, same, dite_false]
    exact .none

theorem typeds_collected {c c' : Option (Typed β)} (collected : Option.Rel L.Typeds c c') (a : Ty) :
    Option.Rel (L.Values a) (c.bind (Typed.at? a)) (c'.bind (Typed.at? a)) := by
  cases collected with
  | none => exact .none
  | some typeds => exact typeds.at? a

namespace Diagnostics

variable {d d' e e' : Diagnostic}

theorem number (alike : L.Diagnostics d d') : L.Numbers d.id d'.id := by
  cases alike <;> assumption

theorem place (alike : L.Diagnostics d d') : L.place d.index d'.index := by
  cases alike <;> assumption

theorem rank (alike : L.Diagnostics d d') : d.rank = d'.rank := by
  cases alike <;> rfl

theorem isBare (alike : L.Diagnostics d d') : d.isBare = d'.isBare := by
  cases alike <;> rfl

theorem merge {i i' : Nat} (number : L.Numbers i i') (first : L.Diagnostics d d')
    (second : L.Diagnostics e e') :
    L.Diagnostics (Diagnostic.merge i d e) (Diagnostic.merge i' d' e') := by
  -- Both merges are decided alike: numbers, places and ranks compare in one run as in the other.
  have ids : d.id = e.id ↔ d'.id = e'.id := by
    have one := first.number
    have two := second.number
    unfold Numbers at one two
    omega
  have same := L.eq_iff first.place second.place
  have less := L.lt_iff second.place first.place
  simp only [Diagnostic.merge, ids, ne_eq, same, less, first.rank, second.rank, first.isBare,
    second.isBare]
  split
  · exact first
  · split
    · split
      · exact first
      · exact second
    · split
      · split
        · exact first
        · exact second
      · split
        · exact first
        · exact .merged number first.place first second

theorem merge? {i i' : Nat} {e e' o o' : Option Diagnostic} (number : L.Numbers i i')
    (first : Option.Rel L.Diagnostics e e') (second : Option.Rel L.Diagnostics o o') :
    Option.Rel L.Diagnostics (Diagnostic.merge? i e o) (Diagnostic.merge? i' e' o') := by
  cases first with
  | none =>
    cases second with
    | none => exact .none
    | some two => exact .some two
  | some one =>
    cases second with
    | none => exact .some one
    | some two => exact .some (one.merge number two)

theorem relabel {i i' : Nat} (number : L.Numbers i i') (l : String) (alike : L.Diagnostics d d') :
    L.Diagnostics (d.relabel i l) (d'.relabel i' l) := by
  have rank := alike.rank
  have place := alike.place
  cases alike with
  | leaf => exact .leaf (d := Detail.relabel _ l) number place
  | merged number' place' first second =>
    simp only [Diagnostic.relabel, Diagnostic.rank] at rank ⊢
    exact .relabelled number place (.merged number' place' first second)
  | relabelled number' place' inner =>
    simp only [Diagnostic.relabel, Diagnostic.rank] at rank ⊢
    exact .relabelled number place (.relabelled number' place' inner)

theorem detail (alike : L.Diagnostics d d') :
    d'.detail = { d.detail with index := d'.index } := by
  induction alike with
  | leaf number place => rfl
  | merged number place first second ih ih' =>
    simp [Diagnostic.detail, ih, ih', Detail.append, Diagnostic.index]
  | relabelled number place inner ih =>
    simp [Diagnostic.detail, ih, Detail.relabel, Diagnostic.index]

end Diagnostics

namespace Envs

variable {k i : Nat} {env env' : Env}

theorem cases (envs : L.Envs k env env') :
    (∃ w w', env.input = .chars w ∧ env'.input = .chars w' ∧ w.Alike k w') ∨
      ∃ r r', env.input = .tokens r ∧ env'.input = .tokens r' ∧ L.Runs r r' := by
  have inputs := envs.input
  generalize env.input = input at inputs ⊢
  generalize env'.input = input' at inputs ⊢
  cases inputs with
  | chars windows => exact .inl ⟨_, _, rfl, rfl, windows⟩
  | tokens runs => exact .inr ⟨_, _, rfl, rfl, runs⟩

theorem onward (envs : L.Envs k env env') (reaches : env.Reaches k i) : L.Envs i env env' := by
  refine ⟨?_, envs.place, envs.report⟩
  obtain ⟨w, w', input, input', windows⟩ | ⟨r, r', input, input', runs⟩ := envs.cases
  · rw [input, input']
    exact .chars (windows.onward (reaches.chars input))
  · rw [input, input']
    exact .tokens runs

theorem room (envs : L.Envs k env env') : env.stop - k = env'.stop - k := by
  unfold Env.stop
  obtain ⟨w, w', input, input', windows⟩ | ⟨r, r', input, input', runs⟩ := envs.cases
  · simp only [input, input', windows.room]
  · simp only [input, input', runs.size]

theorem atEnd (envs : L.Envs k env env') : env.atEnd k = env'.atEnd k := by
  have room := envs.room
  unfold Env.atEnd
  congr 1
  exact propext ⟨by omega, by omega⟩

theorem fault (envs : L.Envs k env env') (i : Nat) (message : String) (exact : L.exact) :
    env.fault i message = env'.fault i message := by
  obtain ⟨origin, positions⟩ := envs.report exact
  unfold Env.fault
  rw [origin, positions, L.place_eq exact (envs.place i)]

end Envs

namespace States

variable {env env' : Env} {s s' t t' : State β}

theorem offset (states : L.States s s') : s.offset = s'.offset :=
  congrArg Cursor.offset states.cursor

theorem step (states : L.States s s') : s.steps = s'.steps :=
  congrArg Cursor.steps states.cursor

theorem restore (states : L.States s s') (c : Cursor) :
    L.States (s.restore c) (s'.restore c) :=
  ⟨rfl, states.error, states.seen, states.number⟩

theorem setStep (states : L.States s s') (n : Nat) : L.States (s.setStep n) (s'.setStep n) :=
  ⟨congrArg (fun c : Cursor => Cursor.mk c.offset n) states.cursor, states.error, states.seen,
    states.number⟩

theorem skip (states : L.States s s') (n : Nat) : L.States (s.skip n) (s'.skip n) := by
  refine ⟨?_, states.error, states.seen, states.number⟩
  unfold State.skip
  rw [states.cursor]

theorem next (states : L.States s s') (envs : L.Envs s.offset env env') :
    L.States (s.next env) (s'.next env') := by
  refine ⟨?_, states.error, states.seen, states.number⟩
  unfold State.next
  rw [← states.offset, ← states.cursor]
  obtain ⟨w, w', input, input', windows⟩ | ⟨r, r', input, input', runs⟩ := envs.cases
  · simp only [input, input', Window.rest, windows.rest]
  · simp only [input, input']

theorem setError (states : L.States s s') {e e' : Option Diagnostic}
    (error : Option.Rel L.Diagnostics e e') : L.States (s.setError e) (s'.setError e') :=
  ⟨states.cursor, error, states.seen, states.number⟩

theorem note (states : L.States s s') (notes notes' : List (Note β)) :
    L.States (s.note notes) (s'.note notes') :=
  ⟨states.cursor, states.error, states.seen, states.number⟩

theorem later (states : L.States s s') : L.Numbers (s.nextId + 1) (s'.nextId + 1) := by
  have number := states.number
  unfold Numbers at number ⊢
  omega

theorem complain (states : L.States s s') {make make' : Nat → Diagnostic}
    (made : ∀ {i i'}, L.Numbers i i' → L.Diagnostics (make i) (make' i')) :
    L.States (s.complain make) (s'.complain make') :=
  ⟨states.cursor, .some (made states.number), states.seen, states.later⟩

theorem mergeError (states : L.States s s') {e e' : Option Diagnostic}
    (earlier : Option.Rel L.Diagnostics e e') :
    L.States (s.mergeError e) (s'.mergeError e') :=
  ⟨states.cursor, Diagnostics.merge? states.number earlier states.error, states.seen, states.later⟩

theorem seen_again (states : L.States s s') {d d' : Diagnostic} (fresh : L.Diagnostics d d')
    (slot : Nat) :
    let look (s : State β) (d : Diagnostic) : Diagnostic × State β :=
      match s.seen.bind (·[slot]?) with
      | some d => (d, s)
      | none => (d, { s with nextId := s.nextId + 1, seen := s.seen.map (·.insert slot d) })
    L.Diagnostics (look s d).1 (look s' d').1 ∧ L.States (look s d).2 (look s' d').2 := by
  have seen := states.seen
  dsimp only
  generalize once : s.seen = memory at seen ⊢
  generalize once' : s'.seen = memory' at seen ⊢
  cases seen with
  | none => exact ⟨fresh, states.cursor, states.error, .none, states.later⟩
  | @some m m' cells =>
    have cell := cells slot
    simp only [Option.bind_some]
    generalize m[slot]? = e at cell ⊢
    generalize m'[slot]? = e' at cell ⊢
    cases cell with
    | some alike => exact ⟨alike, states⟩
    | none =>
      refine ⟨fresh, states.cursor, states.error, .some fun i => ?_, states.later⟩
      simp only [Std.TreeMap.getElem?_insert]
      split
      · exact .some fresh
      · exact cells i

theorem encountered (states : L.States s s') (envs : L.Envs s.offset env env') :
    L.Diagnostics (s.encountered env).1 (s'.encountered env').1 ∧
      L.States (s.encountered env).2 (s'.encountered env').2 := by
  have fresh (what : String) :
      L.Diagnostics (.encountered s.nextId (env.index s.offset) what)
        (.encountered s'.nextId (env'.index s.offset) what) :=
    .leaf states.number (envs.place s.offset)
  unfold State.encountered
  rw [← states.offset]
  obtain ⟨w, w', input, input', windows⟩ | ⟨r, r', input, input', runs⟩ := envs.cases
  · simp only [input, input', Window.rest, windows.rest]
    exact ⟨fresh _, states.cursor, states.error, states.seen, states.later⟩
  · have lexeme := runs.lexemes (min s.offset r.lexemes.size)
    simp only [input, input', ← runs.size, ← runs.title, ← runs.render]
    generalize min s.offset r.lexemes.size = slot at lexeme ⊢
    generalize r.lexemes[slot]? = l at lexeme ⊢
    generalize r'.lexemes[slot]? = l' at lexeme ⊢
    cases lexeme with
    | none => exact states.seen_again (fresh _) slot
    | some same =>
      simp only [L.token_eq same]
      exact states.seen_again (fresh _) slot

theorem reject (states : L.States s s') (envs : L.Envs s.offset env env') (why : Rejection) :
    L.States (s.reject env why) (s'.reject env' why) := by
  have place := envs.place s.offset
  obtain ⟨met, after⟩ := states.encountered envs
  unfold State.reject
  rw [← states.offset]
  cases why with
  | silent => exact states.setError .none
  | expecting l | unexpected l | message text =>
    exact states.complain fun number => .leaf number place
  | encountered => exact after.setError (.some met)
  | instead l => exact after.complain fun number => met.relabel number l

theorem relabelError (states : L.States s s') (place : ∀ i, L.place (env.index i) (env'.index i))
    (l : String) : L.States (Action.relabelError l env s) (Action.relabelError l env' s') := by
  have error := states.error
  unfold Action.relabelError
  generalize s.error = e at error ⊢
  generalize s'.error = e' at error ⊢
  cases error with
  | some alike => exact states.complain fun number => alike.relabel number l
  | none =>
    have here := place s.offset
    simp only [State.reject, ← states.offset]
    exact states.complain fun number => .leaf number here

end States

end Likeness

end Descent
