import Descent.Proofs.Calculator.Lexer
import Descent.Proofs.Operator.Expression
import Descent.Proofs.Operator.Orderly

set_option autoImplicit false

namespace Descent

open Descent.Action Descent.Parser

variable {β : Type} {a : Ty} {env : Env} {tokens : TokenRun} {first : Nat}

theorem Terminal.orderly_ofKind (calls : Calls β) (first : Nat) (input : env.input = .tokens tokens)
    (l name : String) (kind : WordKind) (f : Lexeme → String → a.Value β) :
    ((label l (rename name (ofKind kind f))).eval calls).Calm env first 1 :=
  orderly_label l (orderly_named name (orderly_token input fun _ _ _ => trivial))

-- Calls are as many as the tokens that the lexer can give, without counting the spare ones.
theorem Rules.stop_add_le_depth (rules : Rules β) (env : Env) : env.stop + 4 ≤ rules.depth env := by
  unfold depth
  dsimp only
  have within : env.stop + 2 ≤ max env.stop (Text.size env.text) + 2 :=
    Nat.add_le_add_right (Nat.le_max_left _ _) 2
  generalize max env.stop (Text.size env.text) + 2 = places at within
  calc env.stop + 4 ≤ 2 * places := by omega
    _ ≤ places * places := Nat.mul_le_mul_right places (by omega)
    _ ≤ (rules.length + 1) * (places * places) := Nat.le_mul_of_pos_left _ (Nat.succ_pos _)
    _ = (rules.length + 1) * places * places := (Nat.mul_assoc _ _ _).symm
    _ ≤ _ := Nat.le_add_right _ _

def Made {α ε : Type} (P : α → Prop) (x : Except ε α) : Prop := ∃ v, x = .ok v ∧ P v

theorem Made.bind {α γ ε : Type} {P : α → Prop} {Q : γ → Prop} {x : Except ε α}
    {f : α → Except ε γ} (made : Made P x) (next : ∀ v, P v → Made Q (f v)) :
    Made Q (x >>= f) := by
  obtain ⟨v, rfl, holds⟩ := made
  exact next v holds

theorem Made.mapM {α γ ε : Type} {P : γ → Prop} {f : α → Except ε γ} {xs : List α}
    (each : ∀ x ∈ xs, Made P (f x)) : Made (fun ys => ∀ y ∈ ys, P y) (xs.mapM f) := by
  induction xs with
  | nil => exact ⟨[], rfl, List.forall_mem_nil _⟩
  | cons x xs ih =>
    obtain ⟨one, others⟩ := List.forall_mem_cons.1 each
    rw [List.mapM_cons]
    exact one.bind fun y holds => (ih others).bind fun ys all =>
      ⟨y :: ys, rfl, List.forall_mem_cons.2 ⟨holds, all⟩⟩

namespace Calculator

def sign (name : String) : Lexer Float := .exactly name (.reserved name)

def separator : Lexer Float :=
  .label "[,,#]" (plus ([.reserved ",", .reserved "#"].map fun token : Token =>
    tokenWhere fun l => decide (l.token = token)))

def operand (mode : AngleMode) : Parser Float .base :=
  plus
    [between (sign "(") (sign ")") expression,
     .tryMap (a := .pair .text (.list .base)) (b := .base) (fun (n, vs) => call mode n vs)
       (both (b := .option (.list .base)) (c := .pair .text (.list .base))
         (fun n vs => (n, vs.getD []))
         (.label "word" (Terminal.word (a := .text) fun _ name => name))
         (optional (between (sign "(") (sign ")") (Parser.sepEndBy separator expression)))),
     .tryMap (a := .text) (b := .base) number
       (.label "number" (Terminal.decimal (a := .text) fun _ text => text))]

def Computes (o : Operator Float) : Prop :=
  ∃ name, ∃ f : o.kind.ty.Value Float, o.parser = seqRight (sign name) (.ret f)

theorem vocabulary_token {name : String} (member : name ∈ operators ∧ name ≠ "") :
    vocabulary.token name = .ok (.reserved name) :=
  Vocabulary.token_ofOperators member.1 member.2

theorem tokenParser_eq {name : String} (member : name ∈ operators ∧ name ≠ "") :
    vocabulary.tokenParser name = .ok (sign name) :=
  Vocabulary.tokenParser_eq (vocabulary_token member)

theorem separator_eq : vocabulary.parser [",", "#"] = .ok separator := by
  have known : ∀ name ∈ [",", "#"], name ∈ operators ∧ name ≠ "" := by decide
  have comma := vocabulary_token (known "," (by decide))
  have hash := vocabulary_token (known "#" (by decide))
  have made : [",", "#"].mapM vocabulary.token = .ok [.reserved ",", .reserved "#"] := by
    simp only [List.mapM_cons, List.mapM_nil, comma, hash]
    rfl
  rw [Vocabulary.parser, Vocabulary.parserLabelled, made]
  rfl

theorem term_eq (mode : AngleMode) : term mode = .ok (operand mode) := by
  have opening : vocabulary.tokenParser "(" = .ok (sign "(") := tokenParser_eq (by decide)
  have closing : vocabulary.tokenParser ")" = .ok (sign ")") := tokenParser_eq (by decide)
  rw [term, opening, closing, separator_eq]
  rfl

theorem operatorTable_made : Made (fun t => ∀ o ∈ t.operators, Computes o) operatorTable := by
  have infixes : ∀ x ∈ infixOperators, x.2.2.1 ∈ operators ∧ x.2.2.1 ≠ "" := by decide
  have prefixes : ∀ x ∈ prefixOperators, x.2.1 ∈ operators ∧ x.2.1 ≠ "" := by decide
  refine .bind (.mapM (P := Computes) fun ⟨kind, precedence, name, f⟩ member => ?_)
    fun binary each => .bind (.mapM (P := Computes) fun ⟨precedence, name, f⟩ member => ?_)
      fun unary each' => ⟨_, rfl, fun o member => ?_⟩
  · have made : vocabulary.tokenParser name = .ok (sign name) := tokenParser_eq (infixes _ member)
    simp only [made]
    cases kind <;> exact ⟨_, rfl, name, f, rfl⟩
  · have made : vocabulary.tokenParser name = .ok (sign name) := tokenParser_eq (prefixes _ member)
    simp only [made]
    exact ⟨_, rfl, name, f, rfl⟩
  · exact (List.mem_append.1 member).elim (each o) (each' o)

theorem make_eq (mode : AngleMode) :
    ∃ t : OperatorTable Float, (∀ o ∈ t.operators, Computes o) ∧
      make mode = .ok ⟨t.expression (operand mode)⟩ := by
  obtain ⟨t, made, each⟩ := operatorTable_made
  refine ⟨t, each, ?_⟩
  rw [make, term_eq, made]
  rfl

-- Operators and terms take a token before they call the rule again, so the induction on what is
-- left of the tokens has to know of calls one token on, and of no others.
def OverTokens (moves : Nat) (p : Parser Float a) : Prop :=
  ∀ (calls : Calls Float) (env : Env) (tokens : TokenRun) (first : Nat),
    env.input = .tokens tokens →
    (calls expressionRule).Calm env (first + 1) 0 → p.Calm calls env first moves

theorem overTokens_sign (name : String) : OverTokens 1 (sign name) := by
  intro calls env tokens first input _
  exact .of_eval (orderly_named name (orderly_label name
    (orderly_token input fun _ _ _ => trivial))) rfl

theorem overTokens_separator : OverTokens 0 separator := by
  intro calls env tokens first input _
  have each (tok : Token) :
      (tokenWhere fun l => decide (l.token = tok) : Lexer Float).Calm calls env first 0 :=
    .of_eval (orderly_token input fun _ _ _ => trivial).still rfl
  refine .of_eval (orderly_label _ (orderly_plus (List.cons_ne_nil _ _) ?_).eval) rfl
  simp [each]

theorem Computes.overTokens {o : Operator Float} (computes : Computes o) :
    OverTokens 0 o.parser := by
  obtain ⟨name, f, parser⟩ := computes
  intro calls env tokens first input inner
  have value : ((Parser.ret f).eval calls).Calm env (first + 1) 0 := orderly_ret trivial
  have taken := (overTokens_sign name calls env tokens first input inner).eval
  rw [parser]
  exact .of_eval (orderly_seqRight taken value).still rfl

theorem overTokens_operand (mode : AngleMode) : OverTokens 0 (operand mode) := by
  intro calls env tokens first input inner
  have further := inner.onward (Nat.le_succ (first + 1))
  have furthest := further.onward (Nat.le_succ (first + 1 + 1))
  have opens := overTokens_sign "(" calls env tokens
  have closes := overTokens_sign ")" calls env tokens
  have parenthesized := orderly_between (p := expression) (opens first input inner).eval inner
    (closes (first + 1) input further).eval.still
  have list := orderly_sepEndBy (p := expression)
    (overTokens_separator calls env tokens (first + 1 + 1) input furthest).eval
    (.of_eval further rfl)
  have arguments := orderly_between (opens (first + 1) input further).eval list.eval
    (closes (first + 1 + 1) input furthest).eval.still
  have word := Terminal.orderly_ofKind (a := .text) calls first input "word" "word" .word
    fun _ name => name
  have application := orderly_both (b := .option (.list .base)) (c := .pair .text (.list .base))
    (f := fun n vs => (n, vs.getD [])) word (orderly_optional arguments)
  have digits := Terminal.orderly_ofKind (a := .text) calls first input "number" "decimal" .decimal
    fun _ text => text
  apply orderly_plus (List.cons_ne_nil _ _)
  simp only [List.forall_mem_cons]
  refine ⟨?_, ?_, ?_, List.forall_mem_nil _⟩
  · exact .of_eval parenthesized.still rfl
  · exact .of_eval (orderly_tryMap application fun _ _ _ => trivial).still rfl
  · exact .of_eval (orderly_tryMap digits fun _ _ _ => trivial).still rfl

theorem overTokens_expression {t : OperatorTable Float} (each : ∀ o ∈ t.operators, Computes o)
    (mode : AngleMode) : OverTokens 0 (t.expression (operand mode)) :=
  fun calls env tokens first input inner =>
    t.orderly_expression (overTokens_operand mode calls env tokens first input inner)
      fun o member => (each o member).overTokens calls env tokens first input inner

theorem orderly_calls {body : Parser Float .base} (runs : OverTokens 0 body)
    (input : env.input = .tokens tokens) (depth : Nat)
    (enough : tokens.lexemes.size < first + depth) :
    (Rules.calls [(expressionRule, body)] depth expressionRule).Calm env first 0 := by
  induction depth generalizing first with
  | zero =>
    refine ⟨regular_of_still fun _ _ _ => rfl, fun n s placed le => ?_⟩
    have within := placed.within.le_stop
    simp only [Env.stop, input] at within
    omega
  | succ depth ih =>
    have inner : (Rules.calls [(expressionRule, body)] depth expressionRule).Calm env
        (first + 1) 0 := ih (by omega)
    have found : Rules.find? [(expressionRule, body)] expressionRule = some body := by
      simp [Rules.find?]
    simp only [Rules.calls, found]
    exact (runs _ env tokens first input inner).eval

theorem orderly_computation {c : Calculator} (runs : OverTokens 0 c.body) (run : TokenRun)
    (origin : String) (positions : PositionMap) {depth : Nat} (enough : run.lexemes.size ≤ depth) :
    ((printError "calculator" 1 (seqLeft c.body (.eof "EOF"))).eval
      (c.grammar.rules.calls depth)).Calm (.ofTokens run origin positions) 0 0 := by
  have input : (Env.ofTokens run origin positions).input = .tokens run := rfl
  have inner : (c.grammar.rules.calls depth expressionRule).Calm
      (.ofTokens run origin positions) (0 + 1) 0 := orderly_calls runs input depth (by omega)
  have body := (runs _ _ run 0 input inner).eval
  exact orderly_printError (orderly_seqLeft body (orderly_eof "EOF")) rfl

theorem orderly_start {c : Calculator} (runs : OverTokens 0 c.body) {w : Window}
    (input : env.input = .chars w) :
    (c.grammar.start.eval (c.grammar.rules.calls (c.grammar.rules.depth env))).Calm env 0 0 := by
  have calls := c.grammar.rules.stop_add_le_depth env
  have computed (lexemes : List Lexeme) (stop : Nat)
      (lexed : Few (a := .lexeme) (env.stop + 3) (Ty.InPlace (β := Float) env 0 .lexeme) lexemes) :=
    have enough : lexemes.toArray.size ≤ c.grammar.rules.depth env := by
      have few : lexemes.length ≤ env.stop + 3 := lexed.1
      rw [List.size_toArray]
      omega
    orderly_computation runs ⟨w.source, lexemes.toArray, stop, "EOF", Token.render⟩ "calculator"
      env.positions enough
  have regular := (computed [] 0 ⟨Nat.zero_le _, by simp⟩).regular
  exact orderly_parseTokens (orderly_lexer input) lexer_lexesInPlace regular input "EOF"
    Token.render "calculator" computed

/-- No text makes the calculator fail without a reason, by a fault of its own or by a signal that
nothing takes. -/
theorem run_ends_well (mode : AngleMode) :
    ∃ c, make mode = .ok c ∧ ∀ text : String,
      (∃ v, (c.run text).result = .ok v) ∨
      ∃ e, (c.run text).result = .error e ∧
        (e.kind = .user ∨ e.kind = .mismatch ∧
          ∃ d, e.detail = some d ∧ Text.IsBoundary text.toList d.index) := by
  obtain ⟨t, each, made⟩ := make_eq mode
  refine ⟨⟨t.expression (operand mode)⟩, made, fun text => ?_⟩
  obtain ⟨v, value, -⟩ | stopped := Grammar.parseText_ends_well text.toList "calculate"
    (orderly_start (overTokens_expression each mode) rfl)
  · exact .inl ⟨v, value⟩
  · exact .inr stopped

end Calculator

end Descent
