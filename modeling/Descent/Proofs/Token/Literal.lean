import Descent.Proofs.Parser.Combinators
import Descent.Proofs.Parser.Scanning
import Descent.Proofs.Token.Numeral

set_option autoImplicit false

namespace Descent

open Text (size)

variable {β : Type} {env : Env} {w : Window}

namespace TokenReader

theorem strip_between (opening closing : String) (body : List Char) :
    strip opening closing (opening.toList ++ (body ++ closing.toList)) = .ok body := by
  have length (s : String) : s.toList.length = s.length := rfl
  have rest : (opening.toList ++ (body ++ closing.toList)).drop opening.length =
      body ++ closing.toList := by
    rw [← length, List.drop_left]
  have begins : opening.toList.isPrefixOf (opening.toList ++ (body ++ closing.toList)) = true :=
    List.isPrefixOf_iff_prefix.2 (List.prefix_append ..)
  have ends : closing.toList.isSuffixOf (body ++ closing.toList) = true :=
    List.isSuffixOf_iff_suffix.2 (List.suffix_append ..)
  have count : (body ++ closing.toList).length - closing.length = body.length := by
    rw [List.length_append, length, Nat.add_sub_cancel]
  simp only [strip, rest, begins, ends, count, Bool.and_self, if_true, List.take_left]

theorem strip_bind {opening closing : String} {c d : Char} (opens : opening.toList = [c])
    (closes : closing.toList = [d]) (body : List Char) (f : List Char → Except TokenError Token) :
    (strip opening closing ([c] ++ (body ++ [d])) >>= f) = f body := by
  rw [← opens, ← closes, strip_between]
  rfl

end TokenReader

inductive Outcome.Reads (tooLarge : Prop) : Outcome β .lexeme → Prop
  | token (fits : ¬ tooLarge) (l : Lexeme) (t : State β) : Reads tooLarge ⟨.ok l, t⟩
  | missed (fits : ¬ tooLarge) (t : State β) : Reads tooLarge ⟨.error .fail, t⟩
  | fault (large : tooLarge) (e : Exception) (internal : e.kind = .internal) (t : State β) :
    Reads tooLarge ⟨.error (.fault e), t⟩

theorem Outcome.Reads.congr {p q : Prop} {o : Outcome β .lexeme} (reads : o.Reads p)
    (same : p ↔ q) : o.Reads q :=
  propext same ▸ reads

theorem Outcome.Reads.fault_of_large {p : Prop} {o : Outcome β .lexeme} (reads : o.Reads p)
    (large : p) : ∃ e, o.reply = .error (.fault e) := by
  cases reads with
  | token fits l t => exact absurd large fits
  | missed fits t => exact absurd large fits
  | fault _ e _ t => exact ⟨e, rfl⟩

namespace Action

variable {a : Ty} {x : Action β a} {m : Matcher} {related : List Char → List Char → Prop}
  {f : List Char → Except TokenError Token} {large : Prop} {s : State β} {n : Nat}

theorem named_reads {y : Action β .lexeme} (reads : (y env n s).Reads large) (name : String) :
    (named name y env n s).Reads large := by
  rw [named]
  generalize y env n s = o at reads ⊢
  cases reads with
  | token fits l t => exact .token fits l t
  | missed fits t => exact .missed fits t
  | fault large e internal t => exact .fault large (e.addFrame _) internal t

theorem lex_reads (scans : x.Scans env w m) (input : env.input = .chars w)
    (misses : (∀ rest, w.rest? s.offset = some rest → m rest = none) → ¬ large)
    (reads : ∀ t r, w.rest? s.offset = some (t ++ r) → m (t ++ r) = some (size t) →
      (∃ token, f t = .ok token) ∧ ¬ large ∨ (∃ e, f t = .error e) ∧ large) :
    (lex x (TokenReader.ofText f) env n s).Reads large := by
  show ((lex x (TokenReader.ofText f)).run env s).Reads large
  rcases scans.lex_run input (TokenReader.ofText f) s with
    ⟨t, run, nowhere⟩ | ⟨p, r, t, here, matched, -, ended⟩
  · rw [run]
    exact .missed (misses nowhere) t
  · rw [ofText_of_rest? here] at ended
    rcases ended with ⟨token, read, run⟩ | ⟨e, read, run⟩ <;> rw [run]
    · rcases reads p r here matched with ⟨-, fits⟩ | ⟨⟨e, other⟩, -⟩
      · exact .token fits _ _
      · exact absurd (other.symm.trans read) (by simp)
    · rcases reads p r here matched with ⟨⟨token, other⟩, -⟩ | ⟨-, large⟩
      · exact absurd (other.symm.trans read) (by simp)
      · exact .fault large _ rfl t

theorem lex_reads_all (scans : x.Scans env w m) (input : env.input = .chars w)
    (recognizes : m.Recognizes related) (reads : ∀ t r, related t r → ∃ token, f t = .ok token)
    (never : ¬ large) : (lex x (TokenReader.ofText f) env n s).Reads large :=
  lex_reads scans input (fun _ => never) fun t r _ matched =>
    .inl ⟨reads t r (recognizes.iff_related.1 matched), never⟩

end Action

namespace Base

open Descent.Action TokenReader

/-- At the offset `k` there is a literal that no token can hold. -/
def Overflows (b : Base) (w : Window) (k : Nat) : Prop :=
  ∃ t r, w.rest? k = some (t ++ r) ∧ b.Literal t ∧
    (∀ c ∈ r.head?, CharClass.wordPart.test c = false) ∧ longLimit < b.value t

def lexer : Base → Lexer β
  | decimal => Lexer.decimalLong
  | octal => Lexer.octLong
  | hex => Lexer.hexLong

theorem lexer_eq (b : Base) : ∃ name label, (b.lexer : Lexer β) =
    .named name (.lex (Scanner.delimited (.pattern b.pattern label)) (ofText b.read)) := by
  cases b <;> exact ⟨_, _, rfl⟩

theorem delimited_recognizes (b : Base) :
    (Scanner.delimitedMatcher b.pattern).Recognizes fun t r =>
      b.Literal t ∧ ∀ c ∈ r.head?, CharClass.wordPart.test c = false := by
  refine (Scanner.delimited_recognizes b.pattern_recognizes).congr fun t r => ?_
  constructor
  · rintro ⟨⟨literal, -⟩, ends⟩
    exact ⟨literal, ends⟩
  · rintro ⟨literal, ends⟩
    refine ⟨⟨literal, fun c next => ?_⟩, ends⟩
    by_contra digit
    rw [Bool.not_eq_false] at digit
    exact absurd (wordPart_of_digit c digit) (by simp [ends c next])

theorem lexer_reads (b : Base) (calls : Calls β) (input : env.input = .chars w) (n : Nat)
    (s : State β) : (b.lexer.eval calls env n s).Reads (b.Overflows w s.offset) := by
  obtain ⟨name, label, same⟩ := b.lexer_eq (β := β)
  rw [same]
  refine named_reads (lex_reads (Scanner.delimited_scans input b.pattern label) input ?_ ?_) name
  · rintro nowhere ⟨t, r, here, literal, ends, -⟩
    have matched := b.delimited_recognizes.iff_related.2 ⟨literal, ends⟩
    rw [nowhere _ here] at matched
    cases matched
  · intro t r here matched
    obtain ⟨literal, ends⟩ := b.delimited_recognizes.iff_related.1 matched
    rw [read_eq literal]
    by_cases fits : b.value t ≤ longLimit
    · refine .inl ⟨⟨_, if_pos fits⟩, ?_⟩
      rintro ⟨t', r', here', literal', ends', large⟩
      have same := Option.some.inj (here.symm.trans here')
      obtain rfl := b.delimited_recognizes.unique ⟨literal, ends⟩ ⟨literal', ends'⟩ same
      omega
    · exact .inr ⟨⟨_, if_neg fits⟩, t, r, here, literal, ends, Nat.lt_of_not_le fits⟩

theorem lexer_stays (b : Base) (calls : Calls β) (input : env.input = .chars w) {s : State β}
    (misses : (w.rest? s.offset).bind b.pattern.run = none) :
    ∃ t : State β, (b.lexer.eval calls).run env s = ⟨.error .fail, t⟩ ∧ t.offset = s.offset := by
  obtain ⟨name, label, same⟩ := b.lexer_eq (β := β)
  have first : Action.pattern b.pattern label env defaultLookahead s =
      ⟨.error .fail, s.reject env (.instead label)⟩ := by
    simp only [Action.pattern, Env.window, input, misses]
    rfl
  refine ⟨s.reject env (.instead label), ?_, by simp [State.offset]⟩
  rw [same]
  simp only [Scanner.delimited, Scanner.delimitedWith, Parser.rename, Parser.seqLeft, Parser.eval,
    run, named, lex, Action.bind, Action.andThen, first]

theorem misses_of_literal {b b' : Base} (octal : b ≠ .octal) (apart : b ≠ b') {t' r' : List Char}
    (literal' : b'.Literal t') (ends : ∀ c ∈ r'.head?, CharClass.wordPart.test c = false) :
    b.pattern.run (t' ++ r') = none := by
  by_contra matched
  obtain ⟨n, matched⟩ := Option.ne_none_iff_exists'.1 matched
  obtain ⟨t, r, same, rfl, literal, -⟩ := (b.pattern_recognizes _ n).1 matched
  cases b with
  | octal => exact octal rfl
  | decimal =>
    obtain ⟨c, ds, rfl, nonzero⟩ := literal.shape
    have zero : ∃ u, t' = '0' :: u := by
      cases b' with
      | decimal => exact absurd rfl apart
      | octal => exact literal'.shape
      | hex =>
        obtain ⟨x, d, ds, rfl, -⟩ := literal'.shape
        exact ⟨x :: d :: ds, rfl⟩
    obtain ⟨u, rfl⟩ := zero
    exact nonzero (List.cons.inj same).1.symm
  | hex =>
    obtain ⟨x, d, ds, rfl, mark⟩ := literal.shape
    cases b' with
    | hex => exact apart rfl
    | decimal =>
      obtain ⟨c, ds', rfl, nonzero⟩ := literal'.shape
      exact nonzero (List.cons.inj same).1
    | octal =>
      obtain ⟨u, rfl⟩ := literal'.shape
      -- The mark of the other base may not follow a zero, and is no digit.
      cases u with
      | nil =>
        obtain ⟨-, rfl⟩ := List.cons.inj same
        have last := ends x rfl
        rcases mark with rfl | rfl <;> exact absurd last (by decide)
      | cons y u =>
        obtain rfl : y = x := (List.cons.inj (List.cons.inj same).2).1
        have digit := literal'.digits y (by simp [digits])
        rcases mark with rfl | rfl <;> exact absurd digit (by decide)

theorem misses_of_overflows {b b' : Base} (octal : b ≠ .octal) (apart : b ≠ b') {k : Nat}
    (overflows : b'.Overflows w k) : (w.rest? k).bind b.pattern.run = none := by
  obtain ⟨t', r', here, literal', ends, -⟩ := overflows
  rw [here, Option.bind_some]
  exact misses_of_literal octal apart literal' ends

theorem sumFrom_reads (calls : Calls β) (input : env.input = .chars w) {bs : List Base}
    (apart : bs.Pairwise fun b b' => b ≠ .octal ∧ b ≠ b') (n : Nat) (s : State β) :
    (sumFrom env n s.cursor (bs.map fun b => b.lexer.eval calls) s).Reads
      (∃ b ∈ bs, b.Overflows w s.offset) := by
  induction apart generalizing s with
  | nil => exact .missed (by simp) s
  | @cons b bs first _ ih =>
    have head := b.lexer_reads calls input defaultLookahead s
    have stays (b' : Base) (mem : b' ∈ bs) (overflows : b'.Overflows w s.offset) :=
      b.lexer_stays calls input (misses_of_overflows (first b' mem).1 (first b' mem).2 overflows)
    simp only [List.map_cons, sumFrom, run] at stays ⊢
    generalize b.lexer.eval calls env defaultLookahead s = o at head stays ⊢
    cases head with
    | token fits l t =>
      refine .token ?_ l t
      rintro ⟨b', mem, overflows⟩
      rcases List.mem_cons.1 mem with rfl | mem
      · exact fits overflows
      · obtain ⟨u, absurd, -⟩ := stays b' mem overflows
        cases absurd
    | fault large e internal t => exact .fault ⟨b, List.mem_cons_self, large⟩ e internal t
    | missed fits t =>
      simp only [orElse]
      -- A lexer that moved before it failed was at its own literal, not at that of a later base.
      split
      · rename_i committed
        refine .missed ?_ t
        rintro ⟨b', mem, overflows⟩
        rcases List.mem_cons.1 mem with rfl | mem
        · exact fits overflows
        · obtain ⟨u, same, still⟩ := stays b' mem overflows
          cases same
          simp [Cursor.committedFrom, State.unmoved still] at committed
      · have later : (sumFrom env n s.cursor (bs.map fun b => b.lexer.eval calls)
            ((t.mergeError s.error).restore s.cursor)).Reads (∃ b ∈ bs, b.Overflows w s.offset) :=
          ih ((t.mergeError s.error).restore s.cursor)
        simpa [fits] using later

end Base

namespace Lexer

/-- The lexers that come with a scanner and a reader of their own. -/
inductive ReadyMade where
  | charLiteral
  | stringLiteral
  | sqlStringLiteral
  | quotedString (opening closing : Char)
  | decimal
  | integer
  | decimalLong
  | octLong
  | hexLong
  | long
  | word

namespace ReadyMade

def lexer : ReadyMade → Lexer β
  | charLiteral => Lexer.charLiteral
  | stringLiteral => Lexer.stringLiteral
  | sqlStringLiteral => Lexer.sqlStringLiteral
  | quotedString opening closing => Lexer.quotedString opening closing
  | decimal => Lexer.decimal
  | integer => Lexer.integer
  | decimalLong => Lexer.decimalLong
  | octLong => Lexer.octLong
  | hexLong => Lexer.hexLong
  | long => Lexer.long
  | word => Lexer.word

def bases : ReadyMade → List Base
  | decimalLong => [.decimal]
  | octLong => [.octal]
  | hexLong => [.hex]
  | long => [.hex, .decimal, .octal]
  | _ => []

end ReadyMade

open Descent.Action Matcher TokenReader

variable {calls : Calls β} {s : State β} {n : Nat} {large : Prop}
  {f : List Char → Except TokenError Token}

theorem between_recognizes (opening closing : Char) {m : Matcher} (fits : m.Fits) :
    ((Pattern.char opening).run.andThen (m.andThen (Pattern.char closing).run)).Recognizes
      fun t r => ∃ body, t = [opening] ++ (body ++ [closing]) ∧
        m (body ++ [closing] ++ r) = some (size body) := by
  simp only [Pattern.run]
  refine ((charWhere_recognizes _).andThen (fits.recognizes.andThen
    (charWhere_recognizes _))).congr fun t r => ?_
  simp only [beq_iff_eq, List.append_assoc]
  constructor
  · rintro ⟨_, _, rfl, ⟨_, rfl, rfl⟩, body, _, rfl, matched, _, rfl, rfl⟩
    exact ⟨body, rfl, matched⟩
  · rintro ⟨body, rfl, matched⟩
    exact ⟨[opening], body ++ [closing], rfl, ⟨opening, rfl, rfl⟩,
      body, [closing], rfl, matched, closing, rfl, rfl⟩

theorem quotedBy_recognizes (opening closing : Char) :
    ((Pattern.andThen (.char opening) (Pattern.manyOf (CharClass.except closing))).run.andThen
      (Pattern.char closing).run).Recognizes
      fun t _ => ∃ body, t = [opening] ++ (body ++ [closing]) ∧ closing ∉ body := by
  rw [Pattern.andThen_run, Pattern.manyOf]
  simp only [Pattern.run]
  refine (((charWhere_recognizes _).andThen (repeatedWhere_recognizes _ 0)).andThen
    (charWhere_recognizes _)).congr fun t r => ?_
  simp only [beq_iff_eq, CharClass.except]
  constructor
  · rintro ⟨_, _, rfl, ⟨_, body, rfl, ⟨_, rfl, rfl⟩, -, others, -⟩, _, rfl, rfl⟩
    exact ⟨body, List.append_assoc .., fun member => by simpa using others _ member⟩
  · rintro ⟨body, rfl, without⟩
    refine ⟨[opening] ++ body, [closing], (List.append_assoc ..).symm,
      ⟨[opening], body, rfl, ⟨_, rfl, rfl⟩, Nat.zero_le _, fun c member => ?_, by simp⟩,
      _, rfl, rfl⟩
    exact bne_iff_ne.2 fun same => without (same ▸ member)

theorem quoted_reads (input : env.input = .chars w) {opening closing : Char} {p : Pattern}
    {title name l l' l'' : String}
    (reads : ∀ body r, p.run (body ++ [closing] ++ r) = some (size body) →
      ∃ token, f ([opening] ++ (body ++ [closing])) = .ok token)
    (never : ¬ large) :
    ((Parser.named title (.lex (.named name (Parser.between (.pattern (.char opening) l)
      (.pattern (.char closing) l'') (.pattern p l'))) (ofText f)) : Lexer β).eval calls
      env n s).Reads large := by
  have scans : ((Parser.named name (Parser.between (.pattern (.char opening) l)
      (.pattern (.char closing) l'') (.pattern p l')) : Scanner β).eval calls).Scans env w
        ((Pattern.char opening).run.andThen (p.run.andThen (Pattern.char closing).run)) :=
    (Scanner.between_scans input ..).named name
  refine named_reads (lex_reads_all scans input
    (between_recognizes opening closing p.run_fits) ?_ never) title
  rintro _ r ⟨body, rfl, matched⟩
  exact reads body r matched

theorem delimited_reads (input : env.input = .chars w) (p : Pattern) (name label : String)
    (f : List Char → Token) (never : ¬ large) :
    ((Parser.named name (delimited p label (ofText fun t => .ok (f t))) : Lexer β).eval calls
      env n s).Reads large :=
  named_reads (lex_reads_all (Scanner.delimited_scans input p label) input
    (Scanner.delimited_recognizes p.run_fits.recognizes) (fun t _ _ => ⟨f t, rfl⟩) never) name

theorem charLiteral_reads (input : env.input = .chars w) (never : ¬ large) :
    ((charLiteral : Lexer β).eval calls env n s).Reads large := by
  refine quoted_reads input (fun body r matched => ?_) never
  have recognizes := escaped_recognizes.any
    (charWhere_recognizes (CharClass.noneOf ['\x27', '\\']).test)
  rw [List.append_assoc, Pattern.orElse_run, Pattern.run, Pattern.noneOf, Pattern.run] at matched
  rcases recognizes.iff_related.1 matched with ⟨c, rfl⟩ | ⟨-, c, rfl, -⟩
  · exact ⟨.char (unescape c), rfl⟩
  · exact ⟨.char c, rfl⟩

theorem stringLiteral_reads (input : env.input = .chars w) (never : ¬ large) :
    ((stringLiteral : Lexer β).eval calls env n s).Reads large := by
  refine quoted_reads input (fun body _ _ => ?_) never
  refine ⟨.string (String.ofList (unescapeAll body)), ?_⟩
  exact strip_bind (by simp) (by simp) body _

theorem sqlStringLiteral_reads (input : env.input = .chars w) (never : ¬ large) :
    ((sqlStringLiteral : Lexer β).eval calls env n s).Reads large := by
  refine quoted_reads input (fun body _ _ => ?_) never
  refine ⟨.string (String.ofList (undouble body)), ?_⟩
  exact strip_bind (by simp) (by simp) body _

theorem quotedString_reads (input : env.input = .chars w) (opening closing : Char)
    (never : ¬ large) :
    ((quotedString opening closing : Lexer β).eval calls env n s).Reads large := by
  refine named_reads (lex_reads_all (Scanner.quotedBy_scans input opening closing) input
    (quotedBy_recognizes opening closing) ?_ never) _
  rintro _ r ⟨body, rfl, -⟩
  exact ⟨_, strip_bind (by simp [Char.toString]) (by simp [Char.toString]) body _⟩

theorem eval_long (calls : Calls β) : (long : Lexer β).eval calls = named "long integer literal"
    (Action.sum ([.hex, .decimal, .octal].map fun b : Base => b.lexer.eval calls)) := by
  have branches : ((Parser.plus [hexLong, decimalLong, octLong] : Lexer β).eval calls) =
      Action.sum ([.hex, .decimal, .octal].map fun b : Base => b.lexer.eval calls) := by
    rw [Parser.eval_plus]
    rfl
  rw [← branches]
  rfl

theorem long_reads (input : env.input = .chars w) :
    ((long : Lexer β).eval calls env n s).Reads
      (∃ b ∈ [Base.hex, .decimal, .octal], b.Overflows w s.offset) := by
  have reads : (sumFrom env n s.cursor
      ([.hex, .decimal, .octal].map fun b : Base => b.lexer.eval calls) s).Reads
        (∃ b ∈ [Base.hex, .decimal, .octal], b.Overflows w s.offset) :=
    Base.sumFrom_reads calls input (by simp) n s
  rw [eval_long]
  exact named_reads reads _

/-- A ready-made lexer gives a token or fails. The only fault is that of an integer literal above
the limit of tokens. -/
theorem ReadyMade.faults_only_above_limit (l : ReadyMade) (calls : Calls β) (w : Window)
    (origin : String) (positions : PositionMap) (n : Nat) (s : State β) :
    (l.lexer.eval calls ⟨.chars w, origin, positions⟩ n s).Reads
      (∃ b ∈ l.bases, b.Overflows w s.offset) := by
  have input : (Env.mk (.chars w) origin positions).input = .chars w := rfl
  have never : ¬ ∃ b ∈ ([] : List Base), b.Overflows w s.offset := by simp
  cases l with
  | charLiteral => exact charLiteral_reads input never
  | stringLiteral => exact stringLiteral_reads input never
  | sqlStringLiteral => exact sqlStringLiteral_reads input never
  | quotedString opening closing => exact quotedString_reads input opening closing never
  | decimal => exact delimited_reads input _ _ _ _ never
  | integer => exact delimited_reads input _ _ _ _ never
  | word => exact delimited_reads input _ _ _ _ never
  | decimalLong => exact (Base.lexer_reads .decimal calls input n s).congr (by simp [bases])
  | octLong => exact (Base.lexer_reads .octal calls input n s).congr (by simp [bases])
  | hexLong => exact (Base.lexer_reads .hex calls input n s).congr (by simp [bases])
  | long => exact long_reads input

theorem ReadyMade.decimalLong_faults_above_limit :
    let env := Env.ofText "9223372036854775808".toList "text" (PositionMap.ofSource [])
    ∃ e, (ReadyMade.decimalLong.lexer.eval (Rules.calls ([] : Rules Nat) 0) env 1
      (env.stateAt .start)).reply = .error (.fault e) := by
  intro env
  have literal : Base.decimal.Literal "9223372036854775808".toList :=
    ⟨⟨'9', "223372036854775808".toList, rfl, by decide⟩, List.all_eq_true.1 (by decide)⟩
  have overflows : Base.decimal.Overflows
      (Window.make "9223372036854775808".toList 19) 0 := by
    refine ⟨_, [], ?_, literal, by simp, by decide⟩
    rw [Window.rest?_eq_slice?]
    rfl
  exact (Base.lexer_reads .decimal _ rfl 1 (env.stateAt .start)).fault_of_large overflows

end Lexer

end Descent
