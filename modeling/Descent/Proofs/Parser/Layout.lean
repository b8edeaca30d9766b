import Descent.Proofs.Parser.Blind
import Descent.Proofs.Parser.Commitment
import Descent.Proofs.Parser.Orderly
import Descent.Proofs.Parser.Span

set_option autoImplicit false

namespace Descent

variable {β : Type} {a : Ty}

namespace Lexeme

structure Ascending (ls : List Lexeme) (stop : Nat) : Prop where
  apart : ls.Pairwise fun l m => l.index < m.index
  before : ∀ l ∈ ls, l.index < stop

def Fills (i : Nat) (l : Lexeme) (j : Nat) : Prop := l.index = i ∧ i < j

/-- The places of a token in two texts, or their ends. -/
def SamePlace (ls ls' : List Lexeme) (stop stop' i i' : Nat) : Prop :=
  ∃ k, placeAt ls stop k = i ∧ placeAt ls' stop' k = i'

variable {ls ls' : List Lexeme} {stop stop' lo hi i j : Nat}

theorem ascending_of_row (row : Row (· ≤ ·) Fills lo ls hi) :
    Ascending ls hi ∧ lo ≤ hi ∧ ∀ l ∈ ls, lo ≤ l.index := by
  induction ls generalizing lo with
  | nil => exact ⟨⟨.nil, by simp⟩, row, by simp⟩
  | cons l ls ih =>
    obtain ⟨_, j, before, ⟨rfl, positive⟩, rest⟩ := row
    obtain ⟨ascending, inside, later⟩ := ih rest
    refine ⟨⟨.cons ?_ ascending.apart, List.forall_mem_cons.2 ⟨?_, ascending.before⟩⟩, ?_,
      List.forall_mem_cons.2 ⟨before, ?_⟩⟩
    · exact fun m member => Nat.lt_of_lt_of_le positive (later m member)
    · exact Nat.lt_of_lt_of_le positive inside
    · omega
    · intro m member
      have := later m member
      omega

theorem placeAt_of_lt (inside : i < ls.length) : placeAt ls stop i = ls[i].index := by
  simp [placeAt, inside]

theorem placeAt_of_le (past : ls.length ≤ i) : placeAt ls stop i = stop := by
  simp [placeAt, past]

namespace Ascending

theorem placeAt_lt (ascending : Ascending ls stop) (less : i < j) (inside : i < ls.length) :
    placeAt ls stop i < placeAt ls stop j := by
  rw [placeAt_of_lt inside]
  by_cases within : j < ls.length
  · rw [placeAt_of_lt within]
    exact List.pairwise_iff_getElem.1 ascending.apart i j inside within less
  · rw [placeAt_of_le (Nat.le_of_not_lt within)]
    exact ascending.before _ (List.getElem_mem inside)

theorem placeAt_le (ascending : Ascending ls stop) : placeAt ls stop i ≤ stop := by
  by_cases inside : i < ls.length
  · rw [placeAt_of_lt inside]
    exact Nat.le_of_lt (ascending.before _ (List.getElem_mem inside))
  · exact Nat.le_of_eq (placeAt_of_le (Nat.le_of_not_lt inside))

theorem placeAt_lt_iff (ascending : Ascending ls stop) :
    placeAt ls stop i < placeAt ls stop j ↔ i < j ∧ i < ls.length := by
  refine ⟨fun below => ?_, fun ⟨less, inside⟩ => ascending.placeAt_lt less inside⟩
  by_cases inside : i < ls.length
  · refine ⟨?_, inside⟩
    by_contra other
    obtain rfl | less : j = i ∨ j < i := by omega
    · exact Nat.lt_irrefl _ below
    · exact Nat.lt_asymm below (ascending.placeAt_lt less (by omega))
  · have last : placeAt ls stop j ≤ stop := ascending.placeAt_le
    rw [placeAt_of_le (Nat.le_of_not_lt inside)] at below
    exact absurd below (Nat.not_lt.2 last)

end Ascending

end Lexeme

namespace Likeness

open Lexeme

variable {ls ls' : List Lexeme} {stop stop' : Nat}

def ofTokens (ascending : Ascending ls stop) (ascending' : Ascending ls' stop')
    (same : ls.map (·.token) = ls'.map (·.token)) (first first' : Nat) : Likeness where
  place := SamePlace ls ls' stop stop'
  lexeme l l' := l.token = l'.token
  first := first
  first' := first'
  exact := False
  lt_iff := by
    rintro _ _ _ _ ⟨i, rfl, rfl⟩ ⟨j, rfl, rfl⟩
    have length : ls.length = ls'.length := by simpa using congrArg List.length same
    rw [ascending.placeAt_lt_iff, ascending'.placeAt_lt_iff, length]
  token_eq := id
  place_eq := False.elim

theorem envs_ofTokens {ascending : Ascending ls stop} {ascending' : Ascending ls' stop'}
    {same : ls.map (·.token) = ls'.map (·.token)} {first first' : Nat} (source source' : List Char)
    (eofTitle : String) (render : Token → String) (origin : String)
    (positions positions' : PositionMap) (k : Nat) :
    (ofTokens ascending ascending' same first first').Envs k
      (.ofTokens ⟨source, ls.toArray, stop, eofTitle, render⟩ origin positions)
      (.ofTokens ⟨source', ls'.toArray, stop', eofTitle, render⟩ origin positions') := by
  refine ⟨.tokens ⟨by simpa using congrArg List.length same, fun i => ?_, rfl, rfl⟩, fun i => ?_,
    False.elim⟩
  · have token : (ls[i]?).map (·.token) = (ls'[i]?).map (·.token) := by
      rw [← List.getElem?_map, same, List.getElem?_map]
    simp only [List.getElem?_toArray]
    cases here : ls[i]? <;> cases there : ls'[i]? <;> simp only [here, there] at token ⊢
    · exact .none
    · cases token
    · cases token
    · exact .some (Option.some.inj token)
  · rw [Env.index_ofTokens_eq, Env.index_ofTokens_eq]
    exact ⟨i, rfl, rfl⟩

end Likeness

/-- Results of which one says what the other says, and points where the other points. -/
inductive SameResult {α : Type} (place : Nat → Nat → Prop) (origin : String)
    (positions positions' : PositionMap) : Except Exception α → Except Exception α → Prop
  | value (v : α) : SameResult place origin positions positions' (.ok v) (.ok v)
  | user (message : String) {i i' : Nat} (same : place i i') :
    SameResult place origin positions positions'
      (.error (.make .user (some message) none origin (positions.position i)))
      (.error (.make .user (some message) none origin (positions'.position i')))
  | mismatch (d : Detail) {i' : Nat} (same : place d.index i') :
    SameResult place origin positions positions'
      (.error (.make .mismatch none (some d) origin (positions.position d.index)))
      (.error (.make .mismatch none (some { d with index := i' }) origin (positions'.position i')))

theorem SameResult.symm {α : Type} {place place' : Nat → Nat → Prop} {origin : String}
    {positions positions' : PositionMap} {r r' : Except Exception α}
    (same : SameResult place origin positions positions' r r')
    (swap : ∀ i i', place i i' → place' i' i) :
    SameResult place' origin positions' positions r' r := by
  cases same with
  | value v => exact .value v
  | user message same => exact .user message (swap _ _ same)
  | mismatch d same => exact .mismatch { d with index := _ } (swap _ _ same)

theorem Grammar.parseText_result (g : Grammar β a) (source : List Char) (origin : String) :
    let env := Env.ofText source origin (PositionMap.ofSource source)
    (g.parseText source origin).result = (((g.start.eval (g.rules.calls (g.rules.depth env))).run
      env (env.stateAt .start)).toParse env).result := rfl

namespace Action

open Lexeme

variable {env env' : Env} {w w' : Window} {ls ls' : List Lexeme} {t t' : State β}
  {x y : Action β a}

theorem inside_sameResult (free : a.tokenless = true) (input : env.input = .chars w)
    (input' : env'.input = .chars w') (ascending : Ascending ls t.offset)
    (ascending' : Ascending ls' t'.offset) (same : ls.map (·.token) = ls'.map (·.token))
    (name : env.origin = env'.origin) (eofTitle : String) (render : Token → String)
    (origin : String) (actions : ∀ L : Likeness, L.Actions x y)
    (calm : x.Calm (env.overTokens w t.offset ls eofTitle render origin) 0 0) :
    SameResult (SamePlace ls ls' t.offset t'.offset) env.origin env.positions env'.positions
      ((inside x (env.overTokens w t.offset ls eofTitle render origin) 0 t).toParse env).result
      ((inside y (env'.overTokens w' t'.offset ls' eofTitle render origin) 0 t').toParse
        env').result := by
  let L := Likeness.ofTokens ascending ascending' same t.nextId t'.nextId
  have envs : L.Envs 0 (env.overTokens w t.offset ls eofTitle render origin)
      (env'.overTokens w' t'.offset ls' eofTitle render origin) := by
    simp only [Env.overTokens, Env.index_chars input, Env.index_chars input']
    exact Likeness.envs_ofTokens _ _ eofTitle render origin _ _ 0
  have begins : (t.enter (env.overTokens w t.offset ls eofTitle render origin) 0).Placed
      (env.overTokens w t.offset ls eofTitle render origin) fun _ => True :=
    ⟨Nat.zero_le _, fun _ _ => trivial, State.truthful_of_blank rfl⟩
  have ends : SamePlace ls ls' t.offset t'.offset t.offset t'.offset := by
    have length : ls.length = ls'.length := by simpa using congrArg List.length same
    exact ⟨ls.length, placeAt_of_le (Nat.le_refl _), placeAt_of_le (Nat.le_of_eq length.symm)⟩
  generalize env.overTokens w t.offset ls eofTitle render origin = inner at calm envs begins ⊢
  generalize env'.overTokens w' t'.offset ls' eofTitle render origin = inner' at envs ⊢
  have states : L.States (t.enter inner 0) (t'.enter inner' 0) :=
    envs.enter (Nat.add_comm t.nextId t'.nextId)
  -- The first run ends well, and decides how the second one ends.
  have outcomes := (actions L).run (s := t.enter inner 0) envs states
  obtain ⟨r, u, ran, -, ended⟩ := calm.run begins (Nat.zero_le _)
  rcases ran' : y.run inner' (t'.enter inner' 0) with ⟨r', u'⟩
  rw [ran, ran'] at outcomes
  rw [inside_of_run ran, inside_of_run ran']
  cases ended with
  | signal raised => exact raised.elim
  | ok value moved =>
    cases outcomes with
    | ok values later reaches =>
      obtain rfl := (Likeness.values_iff (.inl free)).1 values
      exact .value _
  | @fail _ d told =>
    cases outcomes with
    | hard failures => cases failures
    | fail later =>
      have errors := later.error
      rw [told] at errors
      generalize told' : u'.error = e at errors
      cases errors with
      | @some _ d' alike =>
        have place : SamePlace ls ls' t.offset t'.offset d.detail.index d'.index :=
          d.index_detail ▸ alike.place
        simpa [Outcome.toParse, leave, fail, Failure.exception, told, told', Except.mapError,
          alike.detail, Diagnostic.index_detail, name] using SameResult.mismatch d.detail place
  | user =>
    cases outcomes with
    | hard failures later reaches =>
      cases failures with
      | @user message i i' place =>
        have place : SamePlace ls ls' t.offset t'.offset (i.getD t.offset) (i'.getD t'.offset) := by
          cases place with
          | none => exact ends
          | some place => exact place
        simpa [Outcome.toParse, leave, Failure.exception, Except.mapError, State.offset,
          Env.index_chars input, Env.index_chars input', name] using SameResult.user message place

end Action

end Descent
