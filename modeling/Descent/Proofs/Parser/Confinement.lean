import Descent.Parser.Scanner
import Descent.Proofs.Parser.Lockstep
import Descent.Proofs.Text.Range
import Descent.Token.Lexer

set_option autoImplicit false

namespace Descent

variable {β : Type} {a b : Ty}

namespace TokenReader

theorem local_value (t : Token) : (value t).Local := fun _ _ _ _ _ => rfl

theorem local_ofText (f : List Char → Except TokenError Token) : (ofText f).Local := by
  intro source source' first length same
  simp only [ofText, slice, same]

end TokenReader

/-- All readers that the parser hands texts to are `good`, and all rules that it calls `known`. -/
def Parser.Uses (good : TokenReader → Prop) (known : String → Prop) {a : Ty} : Parser β a → Prop
  | .ret _ | .reject _ | .raise _ | .abort _ | .fault _ | .getIndex | .eof _ | .token _
  | .char _ _ | .pattern _ _ => True
  | .rule name => known name
  | .matched p | .atomize p | .lookahead _ p | .stepBy _ p | .peek p | .label _ p
  | .isConsumed _ p | .notConsumed _ p | .test _ _ p | .tryMap _ p | .loop p _ _ _
  | .traced p _ | .named _ p => p.Uses good known
  | .lex p reader => p.Uses good known ∧ good reader
  | .bind p f => p.Uses good known ∧ ∀ v, (f v).Uses good known
  | .ifElse p yes no =>
    p.Uses good known ∧ (∀ v, (yes v).Uses good known) ∧ no.Uses good known
  | .tryCatch p _ resume => p.Uses good known ∧ ∀ v key, (resume v key).Uses good known
  | .sum _ branches | .favored _ _ branches => ∀ i, (branches i).Uses good known
  | .nested opening closing body =>
    opening.Uses good known ∧ closing.Uses good known ∧ body.Uses good known
  | .parseTokens lexer grammar _ _ _ => lexer.Uses good known ∧ grammar.Uses good known
  | .scanChars outer inner _ => outer.Uses good known ∧ inner.Uses good known
  | .lazy make => ∀ u, (make u).Uses good known

def Parser.IsLocal (p : Parser β a) : Prop := p.Uses TokenReader.Local fun _ => True

def Rules.IsLocal (rules : Rules β) : Prop := ∀ name p, rules.find? name = some p → p.IsLocal

namespace Likeness

variable {L : Likeness}

def same (exact : Prop) : Likeness where
  place := Eq
  lexeme := Eq
  first := 0
  first' := 0
  exact := exact
  lt_iff := by
    rintro i _ j _ rfl rfl
    exact Iff.rfl
  token_eq := congrArg Lexeme.token
  place_eq := fun _ _ _ place => place

theorem plain_same {exact : Prop} : (same exact).Plain := ⟨fun _ => rfl, Iff.rfl⟩

theorem Plain.options_iff (plain : L.Plain) {v v' : Option (a.Value β)} :
    Option.Rel (L.Values a) v v' ↔ v = v' :=
  plain.values_iff (a := .option a)

theorem Plain.lists_iff (plain : L.Plain) {vs vs' : List (a.Value β)} :
    List.Forall₂ (L.Values a) vs vs' ↔ vs = vs' :=
  plain.values_iff (a := .list a)

theorem Plain.results_refl (plain : L.Plain) (r : Except UserError (b.Value β)) :
    L.Results b r r := by
  rcases r with ⟨message, index⟩ | v
  · cases index with
    | none => exact .error message .none
    | some i => exact .error message (.some (plain.place_refl i))
  · exact .ok (plain.values_iff.2 rfl)

theorem Plain.recoveries_refl (plain : L.Plain) (r : Recovery (a.Value β)) :
    L.Recoveries a r r := by
  cases r with
  | value v => exact .value (plain.values_iff.2 rfl)
  | resume => exact .resume
  | propagate left => exact .propagate (plain.options_iff.2 rfl)

theorem Plain.parsers_refl (plain : L.Plain) {called : String → Prop} (p : Parser β a)
    (uses : p.Uses TokenReader.Local called) : L.Parsers called p p := by
  induction p with
  | ret v => exact .ret (plain.values_iff.2 rfl)
  | reject why => exact .reject why
  | raise key => exact .raise key
  | abort message => exact .abort message
  | fault message => exact .fault message
  | getIndex => exact .getIndex plain
  | eof l => exact .eof l
  | token f =>
    refine .token fun l l' lexeme => ?_
    rw [plain.lexeme_iff.1 lexeme]
    exact plain.options_iff.2 rfl
  | char k f => exact .char k fun c => plain.values_iff.2 rfl
  | pattern p l => exact .pattern p l
  | matched p ih => exact .matched (ih uses)
  | bind p f ih ihNext =>
    refine .bind (ih uses.1) fun {v v'} values => ?_
    rw [plain.values_iff.1 values]
    exact ihNext v' (uses.2 v')
  | atomize p ih => exact .atomize (ih uses)
  | lookahead n p ih => exact .lookahead n (ih uses)
  | stepBy n p ih => exact .stepBy n (ih uses)
  | peek p ih => exact .peek (ih uses)
  | label l p ih => exact .label l (ih uses)
  | isConsumed message p ih => exact .isConsumed message (ih uses)
  | notConsumed message p ih => exact .notConsumed message (ih uses)
  | test check l p ih =>
    exact .test l (fun values => by rw [plain.values_iff.1 values]) (ih uses)
  | ifElse p yes no ih ihYes ihNo =>
    obtain ⟨usesP, usesYes, usesNo⟩ := uses
    refine .ifElse (ih usesP) (fun {v v'} values => ?_) (ihNo usesNo)
    rw [plain.values_iff.1 values]
    exact ihYes v' (usesYes v')
  | tryCatch p handler resume ih ihResume =>
    refine .tryCatch (ih uses.1) (fun {v v'} key values => ?_) fun {v v'} key values => ?_
    · rw [plain.options_iff.1 values]
      exact plain.recoveries_refl _
    · rw [plain.options_iff.1 values]
      exact ihResume v' key (uses.2 v' key)
  | tryMap f p ih =>
    refine .tryMap (fun {v v'} values => ?_) (ih uses)
    rw [plain.values_iff.1 values]
    exact plain.results_refl _
  | sum n branches ih => exact .sum fun i => ih i (uses i)
  | favored preference n branches ih => exact .favored preference fun i => ih i (uses i)
  | loop p min max finish ih =>
    refine .loop min max (ih uses) fun {vs vs'} lists => ?_
    rw [plain.lists_iff.1 lists]
    exact plain.values_iff.2 rfl
  | nested opening closing body ihOpening ihClosing ihBody =>
    obtain ⟨usesOpening, usesClosing, usesBody⟩ := uses
    exact .nested (ihOpening usesOpening) (ihClosing usesClosing) (ihBody usesBody)
  | lex scanner reader ih => exact .lex plain uses.2 (ih uses.1)
  | parseTokens lexer grammar eofTitle render origin ihLexer ih =>
    exact .parseTokens plain eofTitle render origin (ihLexer uses.1) (ih uses.2)
  | scanChars outer inner origin ihOuter ihInner =>
    exact .scanChars plain origin (ihOuter uses.1) (ihInner uses.2)
  | traced p hook ih => exact .traced hook hook (ih uses)
  | lazy make ih => exact .lazy fun u => ih u (uses u)
  | rule name => exact .rule uses
  | named name p ih => exact .named name (ih uses)

theorem numbers_same {exact : Prop} {i i' : Nat} : (same exact).Numbers i i' ↔ i = i' := Iff.rfl

theorem diagnostics_same {exact : Prop} {d d' : Diagnostic} :
    (same exact).Diagnostics d d' ↔ d = d' := by
  constructor
  · intro alike
    induction alike with
    | leaf number place =>
      obtain rfl := numbers_same.1 number
      cases place
      rfl
    | merged number place _ _ first second =>
      obtain rfl := numbers_same.1 number
      rw [first, second, show _ = _ from place]
    | relabelled number place _ inner =>
      obtain rfl := numbers_same.1 number
      rw [inner, show _ = _ from place]
  · rintro rfl
    induction d with
    | leaf i d => exact .leaf rfl rfl
    | merged i k rank d e first second => exact .merged rfl rfl first second
    | relabelled i k rank l d inner => exact .relabelled rfl rfl inner

theorem errors_same {exact : Prop} {e e' : Option Diagnostic} :
    Option.Rel (same exact).Diagnostics e e' ↔ e = e' := by
  constructor
  · rintro (alike | _)
    · rw [diagnostics_same.1 alike]
    · rfl
  · rintro rfl
    cases e with
    | none => exact .none
    | some d => exact .some (diagnostics_same.2 rfl)

theorem states_same {exact : Prop} (s : State β) : (same exact).States s s := by
  refine ⟨rfl, errors_same.2 rfl, ?_, rfl⟩
  cases s.seen with
  | none => exact .none
  | some m => exact .some fun slot => errors_same.2 rfl

theorem failures_same {e e' : Failure β} (failures : (same True).Failures e e') : e = e' := by
  cases failures with
  | signal key collected =>
    rcases collected with ⟨⟨values⟩⟩ | _
    · rw [plain_same.values_iff.1 values]
    · rfl
  | @user message i i' place =>
    cases place with
    | none => rfl
    | some place => rw [show _ = _ from place]
  | fault same => rw [same trivial]

end Likeness

structure Outcome.Same (o o' : Outcome β a) : Prop where
  reply : o.reply = o'.reply
  cursor : o.state.cursor = o'.state.cursor
  error : o.state.error = o'.state.error

namespace Likeness

theorem Outcomes.same {env : Env} {s : State β} {o o' : Outcome β a}
    (outcomes : (Likeness.same True).Outcomes env s o o') :
    o.reply = .error .exhausted ∨
      o.Same o' ∧ (o.reply ≠ .error .fail → env.Reaches s.offset o.state.offset) := by
  cases outcomes with
  | exhausted => exact .inl rfl
  | fail states =>
    exact .inr ⟨⟨rfl, states.cursor, errors_same.1 states.error⟩, fun ended => absurd rfl ended⟩
  | hard failures states reaches =>
    obtain rfl := failures_same failures
    exact .inr ⟨⟨rfl, states.cursor, errors_same.1 states.error⟩, fun _ => reaches⟩
  | ok values states reaches =>
    obtain rfl := plain_same.values_iff.1 values
    exact .inr ⟨⟨rfl, states.cursor, errors_same.1 states.error⟩, fun _ => reaches⟩

theorem windows_alike {source source' : List Char} {first stop : Nat}
    (agree : Text.Agree first stop source source') :
    (Window.make source stop).Alike first (Window.make source' stop) := by
  have slice := agree.slice
  have rest (s : List Char) : (Window.make s stop).rest? first =
      Text.slice? s first (min stop (Text.size s)) := Window.rest?_eq_slice? _ _
  cases cut : Text.slice? source first (min stop (Text.size source)) with
  | some r => exact .text ((rest source).trans cut) ((rest source').trans (slice ▸ cut))
  | none =>
    exact .stuck ((rest source).trans cut) ((rest source').trans (slice ▸ cut)) agree.slice_self
      agree.room

theorem envs_same {source source' : List Char} {first stop : Nat}
    (agree : Text.Agree first stop source source') (origin : String) (positions : PositionMap) :
    (same True).Envs first (.ofRange source stop origin positions)
      (.ofRange source' stop origin positions) :=
  plain_same.envs_ofRange (windows_alike agree) origin fun _ => rfl

end Likeness

theorem Parser.actions_same {rules : Rules β} (readers : rules.IsLocal) {p : Parser β a}
    (own : p.IsLocal) {depth depth' : Nat} (le : depth ≤ depth') :
    (Likeness.same True).Actions (p.eval (rules.calls depth)) (p.eval (rules.calls depth')) :=
  (Likeness.plain_same.parsers_refl p own).eval fun name _ => Likeness.calls_lockstep
    (fun name q found => Likeness.plain_same.parsers_refl q (readers name q found)) le name

theorem Action.offset_inside {x : Action β a} {inner : Env} {first : Nat} {s : State β}
    (ended : (inside x inner first s).reply ≠ .error .fail) :
    (inside x inner first s).state.offset = s.offset := by
  cases run : x.run inner (s.enter inner first) with
  | mk r u =>
    rw [inside_of_run run] at ended ⊢
    rcases r with (_ | _ | _ | _ | _) | v
    case error.fail => exact absurd rfl ended
    all_goals rfl

/-- Over two sources that agree in a range, a parser gives the same reply in that range, comes to
the same place in as many steps and leaves the same diagnostic. -/
theorem Parser.confined_to_window {rules : Rules β} (readers : rules.IsLocal) {p : Parser β a}
    (own : p.IsLocal) {depth depth' : Nat} (le : depth ≤ depth') :
    (∀ (source source' : List Char) (first stop : Nat) (origin : String) (positions : PositionMap)
        (lookahead : Nat) (s : State β), Text.Agree first stop source source' → s.offset = first →
      let o := p.eval (rules.calls depth) (.ofRange source stop origin positions) lookahead s
      let o' := p.eval (rules.calls depth') (.ofRange source' stop origin positions) lookahead s
      o.reply = .error .exhausted ∨
        o.Same o' ∧
          (o.reply ≠ .error .fail → first ≤ o.state.offset ∧ o.state.offset ≤ max first stop)) ∧
    ∀ {b : Ty} (outer : Parser β b) (w : Window) (env : Env) (source' : List Char)
        (origin : String) (lookahead : Nat) (v : b.Value β) (s t : State β), env.input = .chars w →
      (outer.eval (rules.calls depth)).run env s = ⟨.ok v, t⟩ →
      Text.Agree s.offset t.offset w.source source' →
      let o := (Parser.scanChars outer p origin).eval (rules.calls depth) env lookahead s
      let o' := Action.inside (p.eval (rules.calls depth'))
        (.ofRange source' t.offset origin env.positions) s.offset t
      o.reply = .error .exhausted ∨
        o.Same o' ∧ (o.reply ≠ .error .fail → o.state.offset = t.offset) := by
  have actions := Parser.actions_same readers own le
  constructor
  · intro source source' first stop origin positions lookahead s agree here
    subst here
    have envs := Likeness.envs_same agree origin positions
    obtain exhausted | ⟨same, reaches⟩ :=
      (actions _ _ lookahead s s envs (Likeness.states_same s)).same
    · exact .inl exhausted
    · refine .inr ⟨same, fun ended => ?_⟩
      have leads := (reaches ended).chars (w := Window.make source stop) rfl
      refine ⟨leads.le, Nat.le_trans leads.le_stop ?_⟩
      simp only [Window.make]
      omega
  · intro b outer w env source' origin lookahead v s t input ran agree
    have envs := Likeness.envs_same agree origin env.positions
    have outcomes : (Likeness.same True).Outcomes env t _ _ :=
      Likeness.inside_lockstep Likeness.plain_same actions envs (Likeness.states_same t)
    have window : env.window t.offset = .ok w := by simp only [Env.window, input]
    simp only [Parser.eval, Action.scanChars, Action.andThen, ran, window]
    obtain exhausted | ⟨same, -⟩ := outcomes.same
    · exact .inl exhausted
    · exact .inr ⟨same, Action.offset_inside⟩

theorem Parser.word_confined_to_window :
    let p : Parser Nat .lexeme := Lexer.word
    let outer : Parser Nat .unit := Scanner.string "ab"
    let source := ['(', 'a', 'b', ')']
    let source' := ['[', 'a', 'b', 'c']
    let positions := PositionMap.ofSource []
    let env := Env.ofText source "words" positions
    let s : State Nat := ⟨⟨1, 0⟩, none, none, 0, []⟩
    let t : State Nat := ⟨⟨3, 1⟩, none, none, 0, []⟩
    let o := p.eval (Rules.calls [] 0) (.ofRange source 3 "words" positions) 1 s
    let o' := p.eval (Rules.calls [] 0) (.ofRange source' 3 "words" positions) 1 s
    let inner := (Parser.scanChars outer p "inner").eval (Rules.calls [] 0) env 1 s
    let inner' :=
      Action.inside (p.eval (Rules.calls [] 0)) (.ofRange source' 3 "inner" positions) 1 t
    (Rules.IsLocal ([] : Rules Nat) ∧ p.IsLocal ∧ 0 ≤ 0) ∧
      (Text.Agree 1 3 source source' ∧ s.offset = 1 ∧
        (o.reply = .error .exhausted ∨
          o.Same o' ∧ (o.reply ≠ .error .fail → 1 ≤ o.state.offset ∧ o.state.offset ≤ max 1 3))) ∧
      env.input = .chars (Window.make source 4) ∧
        (outer.eval (Rules.calls [] 0)).run env s = ⟨.ok (), t⟩ ∧
        (inner.reply = .error .exhausted ∨
          inner.Same inner' ∧ (inner.reply ≠ .error .fail → inner.state.offset = t.offset)) := by
  intro p outer source source' positions env s t o o' inner inner'
  have noRules : Rules.IsLocal ([] : Rules Nat) := fun name q found => by cases found
  have own : p.IsLocal := by
    simp [p, Parser.IsLocal, Lexer.word, Lexer.delimited, Scanner.delimited,
      Scanner.delimitedWith, Parser.rename, Parser.seqLeft, Parser.notWith, Parser.unexpected,
      Scanner.inClass, Parser.Uses, TokenReader.word, TokenReader.local_ofText]
  have agree : Text.Agree 1 3 source source' := by
    refine ⟨fun i ge lt => ?_, fun outside => ?_⟩
    · obtain rfl | rfl : i = 1 ∨ i = 2 := by omega
      · rfl
      · rfl
    · exact absurd outside (by decide)
  obtain ⟨inRange, inScanner⟩ := Parser.confined_to_window noRules own (Nat.le_refl 0)
  have ran : (outer.eval (Rules.calls [] 0)).run env s = ⟨.ok (), t⟩ := rfl
  exact ⟨⟨noRules, own, Nat.le_refl 0⟩,
    ⟨agree, rfl, inRange source source' 1 3 "words" positions 1 s agree rfl⟩, rfl, ran,
    inScanner outer (Window.make source 4) env source' "inner" 1 () s t rfl ran agree⟩

theorem Parser.empty_range_shows_boundary :
    let p : Parser Nat .unit := .pattern .always "x"
    let run (source : List Char) : Outcome Nat .unit :=
      p.apply [] (.ofRange source 1 "range" (PositionMap.ofSource []))
        ⟨⟨1, 0⟩, none, none, 0, []⟩
    (∀ i, 1 ≤ i → i < 1 → (Text.bytes ['\u00e9'])[i]? = (Text.bytes ['a', 'b'])[i]?) ∧
      (run ['\u00e9']).reply ≠ (run ['a', 'b']).reply := by
  intro p run
  have stuck : (run ['\u00e9']).reply = .error .fail := rfl
  have free : (run ['a', 'b']).reply = .ok () := rfl
  refine ⟨fun i ge lt => by omega, fun same => ?_⟩
  rw [stuck, free] at same
  cases same

end Descent
