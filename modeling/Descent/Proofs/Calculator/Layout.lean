import Descent.Proofs.Calculator.Grammar
import Descent.Proofs.Operator.Blind
import Descent.Proofs.Parser.Confinement
import Descent.Proofs.Parser.Layout

set_option autoImplicit false

namespace Descent

open Descent.Action Descent.Parser
open Text (size)

variable {β : Type} {env env' : Env} {w : Window}

section

variable {calls : Calls β}

def Lexeme.Shown (w : Window) (lo : Nat) (l : Lexeme) (hi : Nat) : Prop :=
  l.index = lo ∧ l.length = size l.token.render.toList ∧ l.token.render.toList ≠ [] ∧
    hi = lo + l.length ∧ ∃ rest, w.rest? lo = some (l.token.render.toList ++ rest)

def Window.Blank (w : Window) (lo hi : Nat) : Prop :=
  hi = lo ∨ ∃ p rest, w.rest? lo = some (p ++ rest) ∧ hi = lo + size p ∧
    ∀ c ∈ p, Text.isBlank c = true

theorem Window.Blank.trans {i j k : Nat} (first : w.Blank i j) (second : w.Blank j k) :
    w.Blank i k := by
  rcases first with rfl | ⟨p, rest, here, rfl, blank⟩
  · exact second
  · rcases second with rfl | ⟨q, rest', there, rfl, blank'⟩
    · exact .inr ⟨p, rest, here, rfl, blank⟩
    · rw [Window.rest?_append here] at there
      obtain rfl := Option.some.inj there
      refine .inr ⟨p ++ q, rest', by rw [here, List.append_assoc], ?_, ?_⟩
      · rw [Text.size_append, Nat.add_assoc]
      · exact fun c member => (List.mem_append.1 member).elim (blank c) (blank' c)

theorem Window.Blank.le {i j : Nat} (blank : w.Blank i j) : i ≤ j := by
  rcases blank with rfl | ⟨p, rest, -, rfl, -⟩
  · exact Nat.le_refl _
  · exact Nat.le_add_right _ _

def Lexer.Advances (calls : Calls β) (env : Env) (w : Window) (p : Lexer β) : Prop :=
  Parser.Spans (a := .lexeme) calls env (Lexeme.Shown w) noSignal p

def TokenReader.Copies (w : Window) (m : Matcher) (reader : TokenReader) : Prop :=
  ∀ k p rest token, w.rest? k = some (p ++ rest) → m (p ++ rest) = some (size p) →
    reader w.source k (size p) = .ok token → token.render.toList = p

theorem Lexer.lex_shown {x : Action β .unit} {m : Matcher} (scans : x.Scans env w m)
    (input : env.input = .chars w) (moves : m.Moves) {reader : TokenReader}
    (copies : reader.Copies w m) :
    Action.Spans (a := .lexeme) env (Lexeme.Shown w) noSignal (Action.lex x reader) := by
  intro s
  rcases scans.lex_run input reader s with
    ⟨t, failed, -⟩ | ⟨p, rest, t, here, matched, offset, ⟨token, read, ran⟩ | ⟨e, -, ran⟩⟩
  · rw [failed]
    trivial
  · obtain rfl := copies _ _ _ _ here matched read
    have some : token.render.toList ≠ [] := by
      intro none
      have moved := moves _ _ matched
      rw [none] at moved
      exact Nat.lt_irrefl 0 moved
    rw [ran]
    exact ⟨rfl, rfl, some, offset, rest, here⟩
  · rw [ran]
    trivial

theorem TokenReader.copies_word (kind : WordKind) (m : Matcher) :
    (TokenReader.word kind).Copies w m := by
  intro k p rest token here _ read
  rw [TokenReader.word, ofText_of_rest? here] at read
  cases read
  exact String.toList_ofList

theorem Lexer.delimited_advances (input : env.input = .chars w) {p : Pattern} (moves : p.run.Moves)
    (l name : String) (kind : WordKind) :
    Lexer.Advances calls env w (rename name (delimited p l (TokenReader.word kind))) :=
  .of_eval (spans_named name (lex_shown (Scanner.delimited_scans input p l) input (moves.andThen _)
    (TokenReader.copies_word kind _))) rfl

theorem Operators.nameLexer_advances (input : env.input = .chars w) {name : String}
    (some : name ≠ "") :
    Lexer.Advances calls env w (nameLexer name) := by
  have scanner : ∀ (s : Scanner β) (p : Pattern) (l : String), s = .pattern p l → p.run.Moves →
      (∀ t rest, p.run (t ++ rest) = .some (Text.size t) → t = name.toList) →
      Lexer.Advances calls env w (.lex s (TokenReader.value (.reserved name))) := by
    rintro s p l rfl moves only
    refine .of_eval (Lexer.lex_shown (.pattern input p l) input moves ?_) rfl
    rintro k t rest _ - matched ⟨⟩
    exact (only t rest matched).symm
  unfold nameLexer
  split
  · rename_i c single
    refine scanner _ _ _ rfl (Matcher.charWhere_moves _) fun t rest matched => ?_
    obtain ⟨d, rfl, same⟩ := (Matcher.charWhere_recognizes (· == c)).iff_related.1 matched
    rw [single, eq_of_beq same]
  · exact scanner _ _ _ rfl (Matcher.text_moves fun none => some (String.toList_eq_nil_iff.1 none))
      fun t rest matched => (Matcher.text_recognizes name.toList).iff_related.1 matched

namespace Calculator

variable {calls : Calls Float}

theorem spans_lexer (input : env.input = .chars w) :
    Action.Spans (a := .list .lexeme) env
      (fun lo ls hi => Row w.Blank (Lexeme.Shown w) lo ls hi ∧ env.stop ≤ hi) noSignal
      (lexer.eval calls) := by
  have blank : (Scanner.blanks.eval calls).Spans env (fun lo _ hi => w.Blank lo hi) noSignal := by
    refine (Scans.pattern input _ _).spans.mono ?_ fun _ _ _ raised => raised
    rintro lo _ _ ⟨rest, k, here, matched, rfl⟩
    obtain ⟨p, rest, rfl, rfl, -, blank, -⟩ :=
      (Matcher.repeatedWhere_recognizes CharClass.blank.test 1 _ _).1 matched
    exact .inr ⟨p, rest, here, rfl, blank⟩
  have gaps : (blanks.eval calls).Spans env (fun lo _ hi => w.Blank lo hi) noSignal := by
    refine (spans_loop (b := .unit) blank 0 none fun _ => ()).mono ?_ ?_
    · rintro lo _ hi ⟨vs, -, chain⟩
      induction vs generalizing lo with
      | nil => exact .inl chain
      | cons v vs ih =>
        obtain ⟨k, first, rest⟩ := chain
        exact first.trans (ih k rest)
    · rintro lo sig hi ⟨vs, k, inner, -, raised, -⟩
      exact raised
  have token : Lexer.Advances calls env w (plus [vocabulary.lexer, Lexer.decimal, Lexer.word]) := by
    refine spans_plus ?_
    simp only [List.forall_mem_cons]
    refine ⟨spans_plus fun p isLexer => ?_, ?_, ?_, List.forall_mem_nil _⟩
    · obtain ⟨name, member, rfl⟩ := List.mem_map.1 isLexer
      exact Operators.nameLexer_advances input (Operators.mem_ofList.1 member).2
    · exact Lexer.delimited_advances input Pattern.decimal_moves _ _ _
    · exact Lexer.delimited_advances input Pattern.word_moves _ _ _
  have tokens := spans_lexemes (fun _ => .inl rfl) outbound_noSignal gaps token
  refine (spans_seqLeft tokens (spans_eof "EOF")).mono ?_ fun _ _ _ raised => raised
  rintro lo ls _ ⟨-, k, row, rfl, past⟩
  exact ⟨row, past⟩

structure Lexed (env : Env) (calls : Calls Float) (ls : List Lexeme) (t : State Float) : Prop where
  run : (lexer.eval calls).run env (env.stateAt .start) = ⟨.ok ls, t⟩
  ends : t.offset = env.stop
  ascending : Lexeme.Ascending ls t.offset
  few : ls.length ≤ env.stop + 3

theorem lexed_of_run (input : env.input = .chars w) {ls : List Lexeme} {t : State Float}
    (run : (lexer.eval calls).run env (env.stateAt .start) = ⟨.ok ls, t⟩) :
    Lexed env calls ls t := by
  have begins : (env.stateAt .start : State Float).Placed env fun _ => True := by
    refine ⟨?_, by rintro _ ⟨⟩, State.truthful_of_blank rfl⟩
    exact (Env.within_chars input).2 ⟨Nat.zero_le _, .zero⟩
  obtain ⟨r, u, ran, leads, ended⟩ := (orderly_lexer input).run begins (Nat.zero_le _)
  have spans : ((lexer.eval calls).run env (env.stateAt .start)).Spans _ _ :=
    spans_lexer input (env.stateAt .start)
  rw [run] at ran spans
  cases ran
  obtain ⟨row, past⟩ := spans
  have order : Row (· ≤ ·) Lexeme.Fills 0 ls t.offset := by
    refine row.mono (fun i j blank => blank.le) ?_
    rintro i l _ ⟨index, length, some, rfl, -⟩
    exact ⟨index, Nat.lt_add_of_pos_right (length ▸ Text.size_pos some)⟩
  exact ⟨run, Nat.le_antisymm leads.placed.within.le_stop past, (Lexeme.ascending_of_row order).1,
    ended.value.1.1⟩

end Calculator

end

namespace Calculator

open Likeness

variable {L : Likeness} {called : String → Prop}

theorem blanks_blind : blanks.Blind L called := blind_loop rfl rfl 0 none _ (.pattern _ _)

theorem delimited_blind (plain : L.Plain) (p : Pattern) (l : String) (kind : WordKind) :
    (Lexer.delimited p l (TokenReader.word kind) : Lexer Float).Blind L called := by
  have follows : (notWith "alphanumeric" (Scanner.inClass CharClass.wordPart) :
      Scanner Float).Blind L called :=
    .ifElse (.peek (.pattern _ _)) (fun _ => .reject _) (.ret trivial)
  exact .lex plain (TokenReader.local_ofText _)
    (.named _ (blind_seqLeft (.pattern _ _) follows))

theorem nameLexer_blind (plain : L.Plain) (name : String) :
    (Operators.nameLexer name : Lexer Float).Blind L called := by
  refine .lex plain (TokenReader.local_value _) ?_
  split
  · exact .pattern _ _
  · exact .pattern _ _

theorem lexer_blind (plain : L.Plain) : lexer.Blind L called := by
  have token : (plus [vocabulary.lexer, Lexer.decimal, Lexer.word]).Blind L called := by
    refine blind_plus ?_
    simp only [List.forall_mem_cons]
    refine ⟨blind_plus fun p isLexer => ?_, ?_, ?_, List.forall_mem_nil _⟩
    · obtain ⟨name, -, rfl⟩ := List.mem_map.1 isLexer
      exact nameLexer_blind plain name
    · exact .named _ (delimited_blind plain _ _ _)
    · exact .named _ (delimited_blind plain _ _ _)
  exact blind_seqLeft
    (blind_seqRight (blind_optional blanks_blind) (blind_sepEndBy blanks_blind token)) (.eof _)

def envOf (text : String) : Env :=
  .ofText text.toList "calculate" (PositionMap.ofSource text.toList)

theorem stop_envOf (text : String) : (envOf text).stop = Text.size text.toList := Nat.min_self _

theorem lexed_of_tokens {text : String} {ls : List Lexeme} (lexed : tokens text = .ok ls)
    (calls : Calls Float) : ∃ t, Lexed (envOf text) calls ls t := by
  let env := Env.ofText text.toList "lex" (PositionMap.ofSource text.toList)
  let rules : Rules Float := []
  let calls' : Calls Float := rules.calls (rules.depth env)
  have blind : lexer.Blind (same False) fun _ => False := lexer_blind plain_same
  have actions : (same False).Actions (lexer.eval calls') (lexer.eval calls) :=
    blind.eval fun _ called => called.elim
  have envs : (same False).Envs 0 env (envOf text) := ⟨.chars .refl, fun _ => rfl, False.elim⟩
  have outcomes := actions.run (s := env.stateAt .start) envs (states_same _)
  have result : (((lexer.eval calls').run env (env.stateAt .start)).toParse env).result = .ok ls :=
    (Grammar.parseText_result ⟨rules, lexer⟩ text.toList "lex").symm.trans lexed
  generalize (lexer.eval calls').run env (env.stateAt .start) = o at outcomes result
  generalize ran : (lexer.eval calls).run (envOf text) (env.stateAt .start) = o' at outcomes
  cases outcomes with
  | exhausted | fail | hard => cases result
  | @ok v v' t t' values states reaches =>
    obtain rfl : v = v' := plain_same.values_iff (a := .list .lexeme).1 values
    cases result
    exact ⟨t', lexed_of_run rfl ran⟩

theorem tokenWhere_blind (token : Token) :
    (tokenWhere fun l => decide (l.token = token) : Lexer Float).Blind L called :=
  blind_tokenWhere fun t => decide (t = token)

theorem sign_blind (name : String) : (sign name).Blind L called :=
  .named _ (.label _ (tokenWhere_blind _))

theorem separator_blind : separator.Blind L called :=
  .label _ (blind_plus (by simp [tokenWhere_blind]))

theorem Computes.blind {o : Operator Float} (computes : Computes o) : o.parser.Blind L called := by
  obtain ⟨name, f, parser⟩ := computes
  have free : o.kind.ty.tokenless = true := by cases o.kind <;> rfl
  rw [parser]
  exact blind_seqRight (sign_blind name) (blind_ret free f)

theorem index_of_call {mode : AngleMode} {name : String} {args : List Float} {e : UserError}
    (refused : call mode name args = .error e) : e.index = none := by
  unfold call at refused
  dsimp only at refused
  split at refused
  · cases refused
  · cases refused
    rfl

theorem index_of_number {text : String} {e : UserError} (refused : number text = .error e) :
    e.index = none := by
  unfold number at refused
  cases read : Decimal.read text with
  | ok x => simp [read, Except.mapError] at refused
  | error _ =>
    rw [read] at refused
    cases refused
    rfl

theorem operand_blind (mode : AngleMode) (called : String → Prop) (member : called expressionRule) :
    (operand mode).Blind L called := by
  have inner : expression.Blind L called := .rule member
  have arguments := blind_between (sign_blind "(") (sign_blind ")")
    (blind_sepEndBy separator_blind inner)
  have word : (Parser.label "word" (Terminal.word (a := .text) fun _ name => name) :
      Parser Float .text).Blind L called :=
    Terminal.blind_ofKind (a := .text) "word" "word" .word (fun name => name) rfl
  have application := blind_both (b := .option (.list .base)) (c := .pair .text (.list .base))
    rfl rfl rfl (fun n vs => (n, vs.getD [])) word (blind_optional arguments)
  have digits : (Parser.label "number" (Terminal.decimal (a := .text) fun _ text => text) :
      Parser Float .text).Blind L called :=
    Terminal.blind_ofKind (a := .text) "number" "decimal" .decimal (fun text => text) rfl
  refine blind_plus ?_
  simp only [List.forall_mem_cons]
  refine ⟨blind_between (sign_blind _) (sign_blind _) inner, ?_, ?_, List.forall_mem_nil _⟩
  · exact blind_tryMap rfl rfl _ (fun v _ => index_of_call) application
  · exact blind_tryMap rfl rfl _ (fun v _ => index_of_number) digits

theorem expression_blind {t : OperatorTable Float} (each : ∀ o ∈ t.operators, Computes o)
    (mode : AngleMode) (L : Likeness) :
    (t.expression (operand mode)).Blind L fun _ => True :=
  t.blind_expression (operand_blind mode _ trivial) fun o member => (each o member).blind

def computation (c : Calculator) : Parser Float .base :=
  printError "calculator" 1 (seqLeft c.body (.eof "EOF"))

def callsOf (c : Calculator) (text : String) : Calls Float :=
  c.grammar.rules.calls (c.grammar.rules.depth (envOf text))

theorem run_result (c : Calculator) {text : String} {ls : List Lexeme} {t : State Float}
    (lexed : Lexed (envOf text) (c.callsOf text) ls t) :
    (c.run text).result = ((inside (c.computation.eval (c.callsOf text))
      ((envOf text).overTokens (Window.make text.toList (Text.size text.toList)) t.offset ls "EOF"
        Token.render "calculator") 0 t).toParse (envOf text)).result := by
  have entered : ((Parser.parseTokens lexer c.computation "EOF" Token.render "calculator").eval
      (c.callsOf text)).run (envOf text) ((envOf text).stateAt .start) = _ :=
    parseTokens_run rfl lexed.run
  rw [← entered]
  rfl

theorem body_of_found {c : Calculator} {name : String} {p : Parser Float .base}
    (found : c.grammar.rules.find? name = some p) : p = c.body := by
  simp only [grammar, Rules.find?, List.lookup_cons, List.lookup_nil] at found
  split at found
  · exact (Option.some.inj found).symm
  · cases found

theorem computation_lockstep {c : Calculator} (blind : ∀ L : Likeness, c.body.Blind L fun _ => True)
    (L : Likeness) {depth depth' : Nat} (le : depth ≤ depth') :
    L.Actions (c.computation.eval (c.grammar.rules.calls depth))
      (c.computation.eval (c.grammar.rules.calls depth')) := by
  have whole : c.computation.Blind L fun _ => True :=
    blind_printError "calculator" 1 rfl (blind_seqLeft (blind L) (.eof "EOF"))
  exact whole.eval fun name _ =>
    calls_lockstep (fun _ _ found => body_of_found found ▸ blind L) le name

theorem sameResult_of_le {c : Calculator} (runs : OverTokens 0 c.body)
    (blind : ∀ L : Likeness, c.body.Blind L fun _ => True) {text text' : String}
    {ls ls' : List Lexeme} (lexed : tokens text = .ok ls) (lexed' : tokens text' = .ok ls')
    (same : ls.map (·.token) = ls'.map (·.token))
    (le : c.grammar.rules.depth (envOf text) ≤ c.grammar.rules.depth (envOf text')) :
    SameResult
      (Lexeme.SamePlace ls ls' (Text.size text.toList) (Text.size text'.toList)) "calculate"
      (PositionMap.ofSource text.toList) (PositionMap.ofSource text'.toList)
      (c.run text).result (c.run text').result := by
  obtain ⟨t, read⟩ := lexed_of_tokens lexed (c.callsOf text)
  obtain ⟨t', read'⟩ := lexed_of_tokens lexed' (c.callsOf text')
  have actions (L : Likeness) : L.Actions (c.computation.eval (c.callsOf text))
      (c.computation.eval (c.callsOf text')) := computation_lockstep blind L le
  have enough : ls.toArray.size ≤ c.grammar.rules.depth (envOf text) := by
    have few := read.few
    have calls := c.grammar.rules.stop_add_le_depth (envOf text)
    rw [List.size_toArray]
    omega
  have calm : (c.computation.eval (c.callsOf text)).Calm
      ((envOf text).overTokens (Window.make text.toList (Text.size text.toList)) t.offset ls "EOF"
        Token.render "calculator") 0 0 :=
    orderly_computation runs _ "calculator" (envOf text).positions enough
  have input (text : String) :
      (envOf text).input = .chars (Window.make text.toList (Text.size text.toList)) := rfl
  have name : (envOf text).origin = (envOf text').origin := rfl
  have result := inside_sameResult rfl (input text) (input text') read.ascending read'.ascending
    same name "EOF" Token.render "calculator" actions calm
  rw [← run_result c read, ← run_result c read', read.ends, read'.ends, stop_envOf, stop_envOf]
    at result
  exact result

/-- Two texts with the same tokens, wherever these are, have the same value, or both are refused: by
the same message, or because of the same token. -/
theorem run_ignores_layout (mode : AngleMode) :
    ∃ c, make mode = .ok c ∧ ∀ (text text' : String) (ls ls' : List Lexeme),
      tokens text = .ok ls → tokens text' = .ok ls' →
      ls.map (·.token) = ls'.map (·.token) →
      SameResult
        (Lexeme.SamePlace ls ls' (Text.size text.toList) (Text.size text'.toList)) "calculate"
        (PositionMap.ofSource text.toList) (PositionMap.ofSource text'.toList)
        (c.run text).result (c.run text').result := by
  obtain ⟨table, each, made⟩ := make_eq mode
  have runs := overTokens_expression each mode
  have blind := expression_blind each mode
  refine ⟨_, made, fun text text' ls ls' lexed lexed' same => ?_⟩
  let c : Calculator := ⟨table.expression (operand mode)⟩
  obtain le | le := Nat.le_total (c.grammar.rules.depth (envOf text))
    (c.grammar.rules.depth (envOf text'))
  · exact sameResult_of_le runs blind lexed lexed' same le
  · refine (sameResult_of_le runs blind lexed' lexed same.symm le).symm ?_
    rintro i i' ⟨k, here, there⟩
    exact ⟨k, there, here⟩

-- Sorting by length is recursive on a measure, which the kernel does not evaluate.
theorem vocabulary_eq : vocabulary =
    ⟨⟨["**", "==", "!=", "<=", ">=", "&&", "||", "!", "+", "-", "*", "/", "%", "<", ">", "(", ")",
      ",", "#"]⟩, none⟩ := by
  have names : (Operators.ofList operators).names =
      ["**", "==", "!=", "<=", ">=", "&&", "||", "!", "+", "-", "*", "/", "%", "<", ">", "(", ")",
        ",", "#"] := by
    have kept : Detail.distinct (operators.filter (· ≠ "")) = operators := by decide
    rw [Operators.ofList, kept, operators]
    simp +decide [List.mergeSort, List.MergeSort.Internal.splitInTwo]
  simp only [vocabulary, Vocabulary.ofOperators, ← names]

theorem tokens_of_toOption {text : String} {ls : List Lexeme}
    (read : (tokens text).toOption = some ls) : tokens text = .ok ls := by
  cases result : tokens text with
  | error e => simp [result, Except.toOption] at read
  | ok ls' => simpa [result, Except.toOption] using read

theorem run_ignores_blanks :
    let ls : List Lexeme := [⟨0, 1, .word .decimal "1"⟩, ⟨1, 1, .reserved "+"⟩]
    let ls' : List Lexeme := [⟨1, 1, .word .decimal "1"⟩, ⟨3, 1, .reserved "+"⟩]
    tokens "1+" = .ok ls ∧ tokens " 1 + " = .ok ls' ∧ ls.map (·.token) = ls'.map (·.token) ∧
      ∃ c, make .none = .ok c ∧
        SameResult
          (Lexeme.SamePlace ls ls' (Text.size "1+".toList) (Text.size " 1 + ".toList)) "calculate"
          (PositionMap.ofSource "1+".toList) (PositionMap.ofSource " 1 + ".toList)
          (c.run "1+").result (c.run " 1 + ").result := by
  intro ls ls'
  have read : tokens "1+" = .ok ls := by
    refine tokens_of_toOption ?_
    rw [tokens, lexer, vocabulary_eq]
    decide +kernel
  have read' : tokens " 1 + " = .ok ls' := by
    refine tokens_of_toOption ?_
    rw [tokens, lexer, vocabulary_eq]
    decide +kernel
  obtain ⟨c, made, alike⟩ := run_ignores_layout .none
  exact ⟨read, read', rfl, c, made, alike _ _ ls ls' read read' rfl⟩

end Calculator

end Descent
