import Descent.Proofs.Parser.Reading
import Descent.Proofs.Parser.Scanning
import Descent.Token.Vocabulary

set_option autoImplicit false

namespace Descent

open Text (size)

variable {β : Type}

theorem Detail.mem_distinct {xs : List String} {x : String} : x ∈ distinct xs ↔ x ∈ xs := by
  -- On what has been seen so far, as that is what the fold carries.
  have kept : ∀ seen : List String, x ∈ xs.foldl
      (fun seen x => if seen.contains x then seen else seen ++ [x]) seen ↔ x ∈ seen ∨ x ∈ xs := by
    induction xs with
    | nil => simp
    | cons y ys ih =>
      intro seen
      rw [List.foldl_cons, ih]
      by_cases known : seen.contains y = true
      · have : y ∈ seen := by simpa using known
        by_cases same : x = y <;> simp_all
      · simp only [known, Bool.false_eq_true, if_false, List.mem_append, List.mem_cons,
          List.not_mem_nil, or_false, or_assoc]
  rw [distinct, kept]
  simp

theorem Operators.mem_ofList {names : List String} {name : String} :
    name ∈ (ofList names).names ↔ name ∈ names ∧ name ≠ "" := by
  simp [ofList, Detail.mem_distinct]

theorem Operators.get?_ofList (names : List String) (name : String) :
    (ofList names).get? name =
      if name ∈ names ∧ name ≠ "" then some (.reserved name) else none := by
  by_cases known : name ∈ (ofList names).names
  · simp [get?, known, mem_ofList.1 known]
  · simp [get?, known, mt mem_ofList.2 known]

namespace Keywords

variable (case : CaseSensitivity)

def first? (case : CaseSensitivity) (names : List String) (key : String) : Option String :=
  names.find? fun k => decide (case.key k = key)

theorem mem_of_first? {case : CaseSensitivity} {names : List String} {key name : String}
    (found : first? case names key = some name) : name ∈ names ∧ case.key name = key := by
  have passes := List.find?_some found
  exact ⟨List.mem_of_find?_eq_some found, of_decide_eq_true passes⟩

theorem first?_eq_none {case : CaseSensitivity} {names : List String} {key : String} :
    first? case names key = none ↔ ¬ ∃ k ∈ names, case.key k = key := by
  simp [first?]

theorem lookup_insert (entries : List (String × Token)) (name key : String) :
    (insert case entries name).lookup key =
      (entries.lookup key).or (if case.key name = key then some (.reserved name) else none) := by
  unfold insert
  split
  case isTrue known =>
    by_cases same : case.key name = key
    · subst same
      obtain ⟨token, found⟩ := Option.isSome_iff_exists.1 known
      rw [found, Option.some_or]
    · rw [if_neg same, Option.or_none]
  case isFalse =>
    rw [List.lookup_append, List.lookup_cons, List.lookup_nil]
    by_cases same : case.key name = key
    · simp [same]
    · simp [same, beq_eq_false_iff_ne.2 (Ne.symm same)]

theorem lookup_insertAll (names : List String) (entries : List (String × Token)) (key : String) :
    (names.foldl (insert case) entries).lookup key =
      (entries.lookup key).or ((first? case names key).map .reserved) := by
  induction names generalizing entries with
  | nil => simp [first?]
  | cons name names ih =>
    have later : first? case (name :: names) key =
        if case.key name = key then some name else first? case names key := by
      by_cases same : case.key name = key <;> simp [first?, same]
    rw [List.foldl_cons, ih, lookup_insert, Option.or_assoc, later]
    split <;> simp

theorem get?_ofList (names : List String) (unknown : String → Token) (name : String) :
    (ofList names case unknown : Keywords β).get? name =
      (first? case names (case.key name)).map .reserved := by
  rw [get?, ofList, withScanner, lookup_insertAll, List.lookup_nil, Option.none_or]

end Keywords

/-- An entry of a vocabulary: an operator as it is spelled, or a keyword by its key. -/
inductive Entry where
  | operator (name : String)
  | keyword (key : String)
  deriving DecidableEq, Repr

namespace Entry

variable {operators keywords : List String} {case : CaseSensitivity}

def ofName? (operators keywords : List String) (case : CaseSensitivity) (name : String) :
    Option Entry :=
  if name ∈ operators ∧ name ≠ "" then some (operator name)
  else if ∃ k ∈ keywords, case.key k = case.key name then some (keyword (case.key name))
  else none

theorem isSome_ofName? {name : String} : (ofName? operators keywords case name).isSome = true ↔
    (name ∈ operators ∧ name ≠ "") ∨ ∃ k ∈ keywords, case.key k = case.key name := by
  unfold ofName?
  split
  case isTrue operator => simp [operator]
  case isFalse other =>
    rw [or_iff_right other]
    split <;> simp_all

inductive Spelled (operators keywords : List String) (case : CaseSensitivity) :
    Entry → String → Prop
  | operator {name : String} (member : name ∈ operators) :
    Spelled operators keywords case (operator name) name
  | keyword {key name : String} (first : Keywords.first? case keywords key = some name) :
    Spelled operators keywords case (keyword key) name

theorem exists_spelled {name : String} {e : Entry}
    (denoted : ofName? operators keywords case name = some e) :
    ∃ x, e.Spelled operators keywords case x := by
  unfold ofName? at denoted
  split at denoted
  case isTrue operator =>
    cases denoted
    exact ⟨name, .operator operator.1⟩
  case isFalse =>
    split at denoted
    case isTrue known =>
      cases denoted
      obtain ⟨k, first⟩ :=
        Option.ne_none_iff_exists'.1 (mt Keywords.first?_eq_none.1 (not_not.2 known))
      exact ⟨k, .keyword first⟩
    case isFalse => cases denoted

theorem Spelled.eq_iff (apart : ∀ name ∈ operators, name ∉ keywords) {e f : Entry} {x y : String}
    (one : e.Spelled operators keywords case x) (other : f.Spelled operators keywords case y) :
    e = f ↔ x = y := by
  cases one with
  | operator member =>
    cases other with
    | operator => simp
    | keyword first =>
      refine ⟨by rintro ⟨⟩, ?_⟩
      rintro rfl
      exact absurd (Keywords.mem_of_first? first).1 (apart _ member)
  | keyword first =>
    cases other with
    | operator member =>
      refine ⟨by rintro ⟨⟩, ?_⟩
      rintro rfl
      exact absurd (Keywords.mem_of_first? first).1 (apart _ member)
    | keyword first' =>
      constructor
      · rintro ⟨⟩
        exact Option.some.inj (first.symm.trans first')
      · rintro rfl
        rw [← (Keywords.mem_of_first? first).2, ← (Keywords.mem_of_first? first').2]

end Entry

namespace Vocabulary

variable {operators keywords : List String} {case : CaseSensitivity} {v : Vocabulary β}
  {name : String} {tok : Token}

theorem ofList_eq_ok (made : ofList operators keywords case = .ok v) :
    (∀ name ∈ operators, name ∉ keywords) ∧
      v = ⟨Operators.ofList operators, some (Keywords.ofList keywords case Token.plainWord)⟩ := by
  unfold ofList withScanner at made
  split at made
  · cases made
  · rename_i apart
    cases made
    exact ⟨by simpa using apart, rfl⟩

theorem token_eq_ok (made : ofList operators keywords case = .ok v) :
    v.token name = .ok tok ↔ ∃ e x, Entry.ofName? operators keywords case name = some e ∧
      e.Spelled operators keywords case x ∧ tok = .reserved x := by
  obtain ⟨-, rfl⟩ := ofList_eq_ok made
  rw [token, Operators.get?_ofList, Option.bind_some, Keywords.get?_ofList, Entry.ofName?]
  by_cases operator : name ∈ operators ∧ name ≠ ""
  · simp only [if_pos operator, Option.some_or, Except.ok.injEq, Option.some.injEq]
    constructor
    · rintro rfl
      exact ⟨_, _, rfl, .operator operator.1, rfl⟩
    · rintro ⟨_, _, rfl, ⟨-⟩, rfl⟩
      rfl
  · simp only [if_neg operator, Option.none_or]
    cases first : Keywords.first? case keywords (case.key name) with
    | none =>
      have missing := Keywords.first?_eq_none.1 first
      simp [missing]
    | some k =>
      have known : ∃ k ∈ keywords, case.key k = case.key name := ⟨k, Keywords.mem_of_first? first⟩
      simp only [if_pos known, Option.map_some, Except.ok.injEq, Option.some.injEq]
      constructor
      · rintro rfl
        exact ⟨_, _, rfl, .keyword first, rfl⟩
      · rintro ⟨_, x, rfl, spelled, rfl⟩
        cases spelled with
        | keyword first' => rw [Option.some.inj (first.symm.trans first')]

end Vocabulary

def IsWord : List Char → Prop
  | [] => False
  | c :: u => (c = '_' ∨ c.isAlpha) ∧ ∀ d ∈ u, d = '_' ∨ d.isAlphanum

structure LongestWord (word text : List Char) : Prop where
  begins : word <+: text
  isWord : IsWord word
  longest : ∀ u, u <+: text → IsWord u → u.length ≤ word.length

theorem LongestWord.run {word text : List Char} (longest : LongestWord word text) :
    ∃ rest, text = word ++ rest ∧ Pattern.word.run (word ++ rest) = some (size word) := by
  obtain ⟨⟨rest, rfl⟩, isWord, longest⟩ := longest
  refine ⟨rest, rfl, ?_⟩
  cases word with
  | nil => exact isWord.elim
  | cons c u =>
    obtain ⟨first, others⟩ := isWord
    have recognizes := (Matcher.charWhere_recognizes CharClass.wordStart.test).andThen
      (Matcher.repeatedWhere_recognizes CharClass.wordPart.test 0)
    rw [Pattern.word, Pattern.andThen_run]
    refine recognizes.iff_related.2 ⟨[c], u, rfl, ⟨c, rfl, ?_⟩, Nat.zero_le _, fun d member => ?_,
      fun d next => ?_⟩
    · simpa [CharClass.wordStart] using first
    · simpa [CharClass.wordPart] using others d member
    · obtain ⟨after, rfl⟩ := List.head?_eq_some_iff.1 next
      by_contra more
      have part : d = '_' ∨ d.isAlphanum := by
        simpa [CharClass.wordPart, or_iff_not_imp_left] using more
      have longer := longest (c :: u ++ [d]) ⟨after, by simp⟩
        ⟨first, by simpa [or_imp, forall_and] using ⟨others, part⟩⟩
      rw [List.length_append, List.length_singleton] at longer
      exact Nat.not_succ_le_self _ longer

theorem LongestWord.of_stops {word rest : List Char} (isWord : IsWord word)
    (stops : ∀ c ∈ rest.head?, ¬ (c = '_' ∨ c.isAlphanum)) : LongestWord word (word ++ rest) := by
  refine ⟨List.prefix_append .., isWord, fun u begins other => ?_⟩
  by_contra longer
  obtain ⟨v, rfl⟩ := List.prefix_of_prefix_length_le (List.prefix_append word rest) begins
    (by omega)
  obtain ⟨after, rfl⟩ := (List.prefix_append_right_inj word).1 begins
  cases v with
  | nil => simp at longer
  | cons c v =>
    cases word with
    | nil => exact isWord.elim
    | cons d word => exact stops c rfl (other.2 c (by simp))

namespace Action

variable {env : Env} {w : Window} {s : State β} {p : Pattern} {text : List Char}

theorem lex_pattern_misses (input : env.input = .chars w)
    (misses : (w.rest? s.offset).bind p.run = none) (l : String) (reader : TokenReader) :
    ∃ t, (lex (pattern p l) reader).run env s = ⟨.error .fail, t⟩ ∧ t.offset = s.offset := by
  refine ⟨s.reject env (.instead l), ?_, by simp [State.offset]⟩
  simp [run, lex, pattern, Env.window, input, misses, fail, andThen]

theorem lex_pattern_reads {word rest : List Char} {f : List Char → Token}
    (input : env.input = .chars w) (here : w.rest? s.offset = some (word ++ rest))
    (matched : p.run (word ++ rest) = some (size word)) (l : String) :
    ∃ t, (lex (pattern p l) (TokenReader.ofText fun text => .ok (f text))).run env s =
        ⟨.ok ⟨s.offset, size word, f word⟩, t⟩ ∧ t.offset = s.offset + size word := by
  have read : TokenReader.ofText (fun text => .ok (f text)) w.source s.offset (size word) =
      .ok (f word) := ofText_of_rest? here
  obtain ⟨t, ran, cursor⟩ := (Scans.pattern input p l).lex_reads input here matched read
  exact ⟨t, ran, congrArg Cursor.offset cursor⟩

end Action

namespace Operators

variable {env : Env} {w : Window} {s : State β} {names : List String}

theorem actions_lexer (calls : Calls β) (t : Operators) :
    t.lexer.actions calls = t.names.map fun name => (nameLexer name).eval calls := by
  rw [lexer, Parser.actions_plus, List.flatMap_map]
  exact List.map_eq_flatMap.symm

theorem eval_lexer (calls : Calls β) (t : Operators) :
    t.lexer.eval calls = Action.sum (t.names.map fun name => (nameLexer name).eval calls) := by
  rw [← actions_lexer, lexer, Parser.eval_plus, Parser.actions_plus]

theorem nameLexer_misses (calls : Calls β) (input : env.input = .chars w) {name : String}
    (misses : ¬ name.toList <+: w.rest s.offset) :
    ∃ t, ((nameLexer name).eval calls).run env s = ⟨.error .fail, t⟩ ∧
      t.offset = s.offset := by
  have nowhere (p : Pattern) (same : ∀ text, ¬ name.toList <+: text → p.run text = none) :
      (w.rest? s.offset).bind p.run = none := by
    cases here : w.rest? s.offset with
    | none => rfl
    | some text =>
      rw [Window.rest, here] at misses
      exact same text misses
  unfold nameLexer
  split
  case h_1 c single =>
    refine Action.lex_pattern_misses input (nowhere _ fun text misses => ?_) _ _
    rw [single] at misses
    cases text with
    | nil => rfl
    | cons d rest =>
      have other : d ≠ c := by
        rintro rfl
        exact misses ⟨rest, rfl⟩
      simp [Pattern.run, Matcher.charWhere, other]
  case h_2 =>
    refine Action.lex_pattern_misses input (nowhere _ fun text misses => ?_) _ _
    simp [Pattern.string, Pattern.run, Matcher.text, misses]

theorem nameLexers_miss (calls : Calls β) (input : env.input = .chars w)
    (absent : ∀ name ∈ names, ¬ name.toList <+: w.rest s.offset) :
    ∀ x ∈ names.map fun name => (nameLexer name).eval calls, ∀ u : State β, u.cursor = s.cursor →
      ∃ t, x.run env u = ⟨.error .fail, t⟩ ∧ t.offset = u.offset := by
  intro x member u same
  obtain ⟨name, listed, rfl⟩ := List.mem_map.1 member
  have place : u.offset = s.offset := congrArg Cursor.offset same
  exact nameLexer_misses calls input (place ▸ absent name listed)

end Operators

namespace Vocabulary

variable {operators keywords : List String} {case : CaseSensitivity} {v : Vocabulary β}
  {env : Env} {w : Window} {s : State β} {text word : List Char}

theorem lexer_reads_word (made : ofList operators keywords case = .ok v) (calls : Calls β)
    (input : env.input = .chars w) (here : w.rest? s.offset = some text)
    (longest : LongestWord word text)
    (noOperator : ∀ name ∈ operators, name ≠ "" → ¬ name.toList <+: text) (n : Nat) :
    ∃ t, v.lexer.eval calls env n s = ⟨.ok ⟨s.offset, size word,
        match Keywords.first? case keywords (case.key (String.ofList word)) with
        | some name => .reserved name
        | none => .plainWord (String.ofList word)⟩, t⟩ ∧ t.offset = s.offset + size word := by
  obtain ⟨-, rfl⟩ := ofList_eq_ok made
  obtain ⟨rest, rfl, matched⟩ := longest.run
  have absent : ∀ name ∈ (Operators.ofList operators).names,
      ¬ name.toList <+: w.rest s.offset := by
    intro name listed
    have known := Operators.mem_ofList.1 listed
    rw [Window.rest, here]
    exact noOperator name known.1 known.2
  let table : Keywords β := Keywords.ofList keywords case Token.plainWord
  have classified : table.classify (String.ofList word) =
      match Keywords.first? case keywords (case.key (String.ofList word)) with
      | some name => .reserved name
      | none => .plainWord (String.ofList word) := by
    rw [Keywords.classify, Keywords.get?_ofList]
    cases Keywords.first? case keywords (case.key (String.ofList word)) <;> rfl
  have reads : ∀ u : State β, u.cursor = s.cursor →
      ∃ t, (table.lexer.eval calls).run env u =
          ⟨.ok ⟨s.offset, size word, table.classify (String.ofList word)⟩, t⟩ ∧
        t.offset = s.offset + size word := by
    intro u same
    have place : u.offset = s.offset := congrArg Cursor.offset same
    rw [← place] at here ⊢
    exact Action.lex_pattern_reads (f := fun t => table.classify (String.ofList t)) input here
      matched "word"
  have whole : (lexer ⟨Operators.ofList operators, some table⟩).eval calls env n s =
      Action.sumFrom env n s.cursor
        ((Operators.ofList operators).lexer.actions calls ++ [table.lexer.eval calls]) s := by
    simp only [lexer, Parser.eval_plus, List.flatMap_cons, List.flatMap_nil, List.append_nil]
    rfl
  -- Each operator fails where it has begun, so the alternation comes to the words.
  obtain ⟨t, ran, offset⟩ := Action.sumFrom_reads n [] rfl
    (Operators.nameLexers_miss calls input absent) reads
  refine ⟨t, ?_, offset⟩
  rw [whole, Operators.actions_lexer, ran, classified]

end Vocabulary

def Parser.exactly {β : Type} (name : String) (tok : Token) : Lexer β :=
  .named name (.label name (tokenWhere fun l => decide (l.token = tok)))

theorem Parser.takes_exactly (calls : Calls β) (name : String) (tok : Token) :
    (exactly name tok).Takes calls fun l => if decide (l.token = tok) then some l else none :=
  fun _ _ _ => (Action.takes_token.label name).named name

def Parser.Accepts (calls : Calls β) (p : Lexer β) (l : Lexeme) : Prop :=
  ∀ (run : TokenRun) (origin : String) (positions : PositionMap) (s : State β),
    run.lexemes[s.offset]? = some l →
      ∃ m t, (p.eval calls).run (Env.ofTokens run origin positions) s = ⟨.ok m, t⟩

theorem Parser.accepts_exactly (calls : Calls β) (name : String) (tok : Token) (l : Lexeme) :
    (exactly name tok).Accepts calls l ↔ l.token = tok := by
  constructor
  · intro accepts
    by_contra other
    let run : TokenRun := ⟨[], #[l], 0, "", Token.render⟩
    let env : Env := Env.ofTokens run "" (PositionMap.ofSource [])
    have takes := takes_exactly calls name tok run "" (PositionMap.ofSource [])
    obtain ⟨m, t, ran⟩ := accepts run "" (PositionMap.ofSource []) (env.stateAt .start) rfl
    have nothing : (env.next? (env.stateAt .start : State β).offset).bind (fun l =>
        if decide (l.token = tok) then some l else none) = none := by
      show (if decide (l.token = tok) then some l else none) = none
      simp [other]
    obtain ⟨u, failed, -⟩ := takes.refuse nothing
    rw [failed] at ran
    cases ran
  · intro same run origin positions s next
    have takes := takes_exactly calls name tok run origin positions
    have value : ((Env.ofTokens run origin positions).next? s.offset).bind (fun l =>
        if decide (l.token = tok) then some l else none) = some l := by
      show run.lexemes[s.offset]?.bind _ = some l
      simp [next, same]
    obtain ⟨t, ran, -⟩ := takes.accept value
    exact ⟨l, t, ran⟩

namespace Vocabulary

variable {v : Vocabulary β} {name : String} {tok : Token} {p : Lexer β}

theorem tokenParser_eq (known : v.token name = .ok tok) :
    v.tokenParser name = .ok (.exactly name tok) := by
  simp only [tokenParser, known]
  rfl

theorem tokenParser_eq_ok :
    v.tokenParser name = .ok p ↔ ∃ tok, v.token name = .ok tok ∧ p = .exactly name tok := by
  cases known : v.token name with
  | error e =>
    simp only [tokenParser, known]
    simp [bind, Except.bind]
  | ok tok =>
    rw [tokenParser_eq known]
    simp [eq_comm]

theorem token_ofOperators {names : List String} (member : name ∈ names) (some : name ≠ "") :
    (ofOperators names : Vocabulary β).token name = .ok (.reserved name) := by
  rw [token, ofOperators, Operators.get?_ofList, if_pos ⟨member, some⟩]
  rfl

/-- Where a word stands and no operator does, the lexer reads the longest one, as the first keyword
of its key or as itself. -/
theorem words_and_names_agree {operators keywords : List String} {case : CaseSensitivity}
    (made : ofList operators keywords case = .ok v) :
    (∀ (calls : Calls β) (env : Env) (w : Window) (n : Nat) (s : State β)
        (word text : List Char), env.input = .chars w → w.rest? s.offset = some text →
        LongestWord word text →
        (∀ name ∈ operators, name ≠ "" → ¬ name.toList <+: text) →
        ∃ t, v.lexer.eval calls env n s = ⟨.ok ⟨s.offset, size word,
            match keywords.find? fun k => case.key k = case.key (String.ofList word) with
            | some k => .reserved k
            | none => .plainWord (String.ofList word)⟩, t⟩ ∧ t.offset = s.offset + size word) ∧
      (∀ name, (∃ p, v.tokenParser name = .ok p) ↔
        (name ∈ operators ∧ name ≠ "") ∨ ∃ k ∈ keywords, case.key k = case.key name) ∧
      ∀ (calls : Calls β) (m n : String) (p q : Lexer β),
        v.tokenParser m = .ok p → v.tokenParser n = .ok q →
        ((∀ l, p.Accepts calls l ↔ q.Accepts calls l) ↔
          Entry.ofName? operators keywords case m = Entry.ofName? operators keywords case n) := by
  refine ⟨fun calls env w n s word text input here longest noOperator =>
    lexer_reads_word made calls input here longest noOperator n, fun name => ?_, ?_⟩
  · rw [← Entry.isSome_ofName?, Option.isSome_iff_exists]
    simp only [tokenParser_eq_ok, token_eq_ok made]
    constructor
    · rintro ⟨_, _, ⟨e, x, denoted, -, -⟩, -⟩
      exact ⟨e, denoted⟩
    · rintro ⟨e, denoted⟩
      obtain ⟨x, spelled⟩ := Entry.exists_spelled denoted
      exact ⟨_, _, ⟨e, x, denoted, spelled, rfl⟩, rfl⟩
  · intro calls m n p q ofM ofN
    obtain ⟨_, known, rfl⟩ := tokenParser_eq_ok.1 ofM
    obtain ⟨_, known', rfl⟩ := tokenParser_eq_ok.1 ofN
    obtain ⟨e, x, denoted, spelled, rfl⟩ := (token_eq_ok made).1 known
    obtain ⟨f, y, denoted', spelled', rfl⟩ := (token_eq_ok made).1 known'
    rw [denoted, denoted', Option.some.injEq, spelled.eq_iff (ofList_eq_ok made).1 spelled']
    simp only [Parser.accepts_exactly]
    constructor
    · intro same
      have reserved := (same ⟨0, 0, .reserved x⟩).1 rfl
      simpa [Token.reserved] using reserved
    · rintro rfl
      exact fun _ => Iff.rfl

theorem sql_words_and_names_agree :
    let operators := ["<", "<=", "if"]
    let keywords := ["Select", "select", "IF"]
    let env : Env := Env.ofText "sELECT if".toList "query" (PositionMap.ofSource [])
    let s : State Nat := env.stateAt .start
    let calls : Calls Nat := Rules.calls [] 0
    ∃ v : Vocabulary Nat, ofList operators keywords .insensitive = .ok v ∧
      (∃ t, v.lexer.eval calls env 1 s = ⟨.ok ⟨0, 6, .reserved "Select"⟩, t⟩ ∧ t.offset = 6) ∧
      (∃ p, v.tokenParser "SELECT" = .ok p) ∧ (¬ ∃ p, v.tokenParser "from" = .ok p) ∧
      ∀ p q r, v.tokenParser "if" = .ok p → v.tokenParser "IF" = .ok q →
        v.tokenParser "If" = .ok r →
        (¬ ∀ l, p.Accepts calls l ↔ q.Accepts calls l) ∧
          ∀ l, q.Accepts calls l ↔ r.Accepts calls l := by
  intro operators keywords env s calls
  have made : ofList operators keywords .insensitive = .ok (⟨Operators.ofList operators,
      some (Keywords.ofList keywords .insensitive Token.plainWord)⟩ : Vocabulary Nat) := by rfl
  obtain ⟨reads, available, same⟩ := words_and_names_agree made
  refine ⟨_, made, ?_, ?_, ?_, fun p q r ofP ofQ ofR => ⟨?_, ?_⟩⟩
  · have isWord : IsWord ['s', 'E', 'L', 'E', 'C', 'T'] := by
      simp only [IsWord, List.forall_mem_cons]
      exact ⟨.inr rfl, .inr rfl, .inr rfl, .inr rfl, .inr rfl, .inr rfl, List.forall_mem_nil _⟩
    have word : LongestWord "sELECT".toList ("sELECT".toList ++ " if".toList) := by
      refine .of_stops isWord fun c next => ?_
      obtain rfl : ' ' = c := Option.some.inj next
      exact not_or.2 ⟨Char.ne_of_val_ne (by decide), Bool.false_ne_true⟩
    have here : (Window.make "sELECT if".toList 9).rest? 0 =
        some ("sELECT".toList ++ " if".toList) := by decide +kernel
    have first : (keywords.find? fun k => CaseSensitivity.insensitive.key k =
        CaseSensitivity.insensitive.key (String.ofList "sELECT".toList)) = some "Select" := by
      decide +kernel
    have read := reads calls env _ 1 s _ _ rfl here word (by decide)
    rw [first] at read
    exact read
  · rw [available]
    decide +kernel
  · rw [available]
    decide +kernel
  · rw [same calls _ _ p q ofP ofQ]
    decide +kernel
  · rw [same calls _ _ q r ofQ ofR]
    decide +kernel

end Vocabulary

end Descent
