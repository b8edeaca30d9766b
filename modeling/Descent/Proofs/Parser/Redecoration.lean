import Descent.Parser.Hook
import Descent.Proofs.Parser.Combinators
import Descent.Proofs.Parser.Congruence

set_option autoImplicit false

namespace Descent

variable {β : Type} {a b : Ty}

def Exception.unframed (e : Exception) : Exception := { e with frames := [] }

def Failure.unframed : Failure β → Failure β
  | fault e => fault e.unframed
  | f => f

def Exception.SameReport (e e' : Exception) : Prop := e.unframed = e'.unframed

open Exception (SameReport)

theorem Exception.SameReport.comparison : Exception.Comparison SameReport :=
  ⟨fun _ => rfl, fun _ same => same⟩

theorem Failure.resembles_iff {f f' : Failure β} :
    f.Resembles SameReport f' ↔ f.unframed = f'.unframed := by
  constructor
  · intro alike
    cases alike with
    | fault both => exact congrArg Failure.fault both
    | _ => rfl
  · intro same
    cases f <;> cases f' <;> simp only [unframed, reduceCtorEq, signal.injEq, user.injEq,
      fault.injEq] at same
    case fail.fail => exact .fail
    case signal.signal => exact same ▸ .signal _
    case user.user => exact same ▸ .user _
    case fault.fault => exact .fault same
    case exhausted.exhausted => exact .exhausted

theorem Reply.resembles_iff {r r' : Reply β a} :
    Reply.Resembles SameReport r r' ↔
      r.mapError Failure.unframed = r'.mapError Failure.unframed := by
  constructor
  · rintro (v | failed)
    · rfl
    · exact congrArg Except.error (Failure.resembles_iff.1 failed)
  · intro same
    rcases r with f | v <;> rcases r' with f' | v' <;> simp only [Except.mapError,
      reduceCtorEq, Except.ok.injEq, Except.error.injEq] at same
    · exact .error (Failure.resembles_iff.2 same)
    · exact same ▸ .ok v

namespace Action

variable {n : Nat} {x y : Action β a}

theorem Resembles.symm (alike : x.Resembles SameReport n y) : y.Resembles SameReport n x := by
  intro env s s' same
  obtain ⟨replies, offset, grows, grows', gain⟩ := alike env s' s same.symm
  exact ⟨Reply.resembles_iff.2 (Reply.resembles_iff.1 replies).symm, offset.symm, grows', grows,
    gain.symm⟩

theorem named_unframed (name : String) (x : Action β a) (env : Env) (n : Nat) (s : State β) :
    (named name x env n s).reply.mapError Failure.unframed =
        (x env n s).reply.mapError Failure.unframed ∧
      (named name x env n s).state = (x env n s).state := by
  rcases run : x env n s with ⟨(_ | _ | _ | _ | _) | v, t⟩ <;> simp only [named, run]
  case error.fault => exact ⟨rfl, rfl⟩
  all_goals exact ⟨trivial, trivial⟩

theorem resembles_named_iff {name : String} :
    x.Resembles SameReport n (named name y) ↔ x.Resembles SameReport n y := by
  refine forall₄_congr fun env s s' _ => ?_
  obtain ⟨reply, state⟩ := named_unframed name y env n s'
  constructor
  · rintro ⟨replies, move⟩
    exact ⟨Reply.resembles_iff.2 ((Reply.resembles_iff.1 replies).trans reply), state ▸ move⟩
  · rintro ⟨replies, move⟩
    exact ⟨Reply.resembles_iff.2 ((Reply.resembles_iff.1 replies).trans reply.symm),
      state ▸ move⟩

theorem resembles_traced_iff {hook : TraceEvent β a → List (Note β)} :
    x.Resembles SameReport n (traced y hook) ↔ x.Resembles SameReport n y :=
  forall₄_congr fun _ _ _ _ => ⟨fun both => ⟨both.reply, both.move⟩,
    fun both => ⟨both.reply, both.move⟩⟩

end Action

open Descent.Action

namespace Parser

variable {n : Nat} {calls : Calls β} {x : Action β a} {p : Parser β a}

theorem resembles_rename_iff {name : String} :
    x.Resembles SameReport n ((rename name p).eval calls) ↔
      x.Resembles SameReport n (p.eval calls) := by
  unfold rename
  split
  · exact resembles_named_iff.trans resembles_named_iff.symm
  · exact resembles_named_iff

theorem resembles_trace_iff {hook : TraceEvent β a → List (Note β)} :
    x.Resembles SameReport n ((trace hook p).eval calls) ↔
      x.Resembles SameReport n (p.eval calls) := by
  unfold trace
  split
  · exact resembles_named_iff.trans resembles_traced_iff
  · exact resembles_traced_iff

end Parser

section Alternations

variable {like : Exception → Exception → Prop} {calls calls' : Calls β}

theorem Parser.sumFrom_actions (calls : Calls β) (p : Parser β a) (env : Env)
    (xs : List (Action β a)) (s : State β) :
    ∃ next : State β → State β, (∀ t, (next t).cursor = s.cursor) ∧
      sumFrom env defaultLookahead s.cursor (p.actions calls ++ xs) s =
        Action.orElse ((p.eval calls).run env s) fun t =>
          if t.cursor.committedFrom s.cursor defaultLookahead then fail t
          else sumFrom env defaultLookahead s.cursor xs (next t) := by
  cases p with
  | sum k ps =>
    refine ⟨fun t => t.restore s.cursor, fun _ => rfl, ?_⟩
    have same : actions calls (.sum k ps) = List.ofFn fun i => (ps i).eval calls := by
      simp only [actions, branches, List.map_ofFn]
      rfl
    have ran : (Parser.eval calls (.sum k ps)).run env s =
        sumFrom env defaultLookahead s.cursor (actions calls (.sum k ps)) s := by
      rw [same]
      rfl
    rw [sumFrom_append rfl, ran]
    rcases failed : sumFrom env defaultLookahead s.cursor (actions calls (.sum k ps)) s with
      ⟨(_ | _ | _ | _ | _) | v, t⟩
    case error.fail =>
      simp only [Action.orElse]
      split
      · rfl
      · -- The alternation has put the cursor back itself.
        rename_i uncommitted
        have back := sumFrom_restored rfl failed uncommitted
        rw [← back]
        rfl
    all_goals rfl
  | _ => exact ⟨fun t => (t.mergeError s.error).restore s.cursor, fun _ => rfl, rfl⟩

theorem Parser.sumFrom_actions_resembles (env : Env) {ps qs : List (Parser β a)}
    (parts : List.Forall₂
      (fun p q => (p.eval calls).Resembles like defaultLookahead (q.eval calls')) ps qs)
    {s s' : State β} (same : s.offset = s'.offset) :
    (sumFrom env defaultLookahead s.cursor (ps.flatMap (actions calls)) s).Resembles like
      s.cursor s'.cursor
      (sumFrom env defaultLookahead s'.cursor (qs.flatMap (actions calls')) s') := by
  induction parts generalizing s s' with
  | nil => exact resembles_of_still same (.error .fail) rfl rfl
  | @cons p q ps qs first _ ih =>
    obtain ⟨next, back, unfolded⟩ :=
      sumFrom_actions calls p env (ps.flatMap (actions calls)) s
    obtain ⟨next', back', unfolded'⟩ :=
      sumFrom_actions calls' q env (qs.flatMap (actions calls')) s'
    rw [List.flatMap_cons, List.flatMap_cons, unfolded, unfolded']
    refine orElse_resembles (first env s s' same) fun t t' move => ?_
    rw [move.committedFrom same]
    split
    · exact fail_resembles move
    · have sameStart : (next t).offset = (next' t').offset := by
        rw [State.offset, State.offset, back, back']
        exact same
      have later := ih sameStart
      rwa [back, back'] at later

theorem Parser.resembles_plus {ps qs : List (Parser β a)}
    (parts : List.Forall₂
      (fun p q => (p.eval calls).Resembles like defaultLookahead (q.eval calls')) ps qs) :
    ((plus ps).eval calls).Resembles like defaultLookahead ((plus qs).eval calls') := by
  rw [eval_plus, eval_plus]
  exact fun env _ _ same => sumFrom_actions_resembles env parts same

theorem Parser.resembles_plus_of_branches {n : Nat} {ps qs : List (Parser β a)}
    (parts : List.Forall₂
      (fun p q => (p.eval calls).Resembles like defaultLookahead (q.eval calls'))
      (ps.flatMap branches) (qs.flatMap branches)) :
    ((plus ps).eval calls).Resembles like n ((plus qs).eval calls') := by
  have mapped (calls : Calls β) (ps : List (Parser β a)) :
      ps.flatMap (actions calls) = (ps.flatMap branches).map (Parser.eval calls) := by
    rw [List.map_flatMap]
    rfl
  rw [eval_plus, eval_plus, mapped, mapped]
  exact resembles_sum (List.forall₂_map_left_iff.2 (List.forall₂_map_right_iff.2 parts))

end Alternations

/-- The parsers differ in names and hooks only, and in nothing that shows with the lookahead `n`. A
rule may be called with the lookaheads that `reach` admits for it. -/
inductive Parser.Redecorated (reach : String → Nat → Prop) :
    {a : Ty} → Nat → Parser β a → Parser β a → Prop
  | ret {a : Ty} {n : Nat} (v : a.Value β) : Redecorated reach n (ret v) (ret v)
  | reject {a : Ty} {n : Nat} (why : Rejection) :
    Redecorated reach n (reject why : Parser β a) (reject why)
  | raise {a : Ty} {n : Nat} (key : Key) :
    Redecorated reach n (raise key : Parser β a) (raise key)
  | abort {a : Ty} {n : Nat} (message : String) :
    Redecorated reach n (abort message : Parser β a) (abort message)
  | fault {a : Ty} {n : Nat} (message : String) :
    Redecorated reach n (fault message : Parser β a) (fault message)
  | getIndex {n : Nat} : Redecorated reach n getIndex getIndex
  | eof {n : Nat} (l : String) : Redecorated reach n (eof l) (eof l)
  | token {a : Ty} {n : Nat} (f : Lexeme → Option (a.Value β)) :
    Redecorated reach n (token f) (token f)
  | char {a : Ty} {n : Nat} (k : CharClass) (f : Char → a.Value β) :
    Redecorated reach n (char k f) (char k f)
  | pattern {n : Nat} (p : Pattern) (l : String) :
    Redecorated reach n (pattern p l) (pattern p l)
  | matched {a : Ty} {n : Nat} {p q : Parser β a}
    (part : Redecorated reach defaultLookahead p q) :
    Redecorated reach n (matched p) (matched q)
  | bind {a b : Ty} {n : Nat} {p q : Parser β a} {f g : a.Value β → Parser β b}
    (part : Redecorated reach defaultLookahead p q)
    (next : ∀ v, Redecorated reach defaultLookahead (f v) (g v)) :
    Redecorated reach n (bind p f) (bind q g)
  | atomize {a : Ty} {n : Nat} {p q : Parser β a}
    (part : Redecorated reach defaultLookahead p q) :
    Redecorated reach n (atomize p) (atomize q)
  | lookahead {a : Ty} {n : Nat} (m : Nat) {p q : Parser β a} (part : Redecorated reach m p q) :
    Redecorated reach n (lookahead m p) (lookahead m q)
  | stepBy {a : Ty} {n : Nat} (m : Nat) {p q : Parser β a}
    (part : Redecorated reach defaultLookahead p q) :
    Redecorated reach n (stepBy m p) (stepBy m q)
  | peek {a : Ty} {n : Nat} {p q : Parser β a} (part : Redecorated reach defaultLookahead p q) :
    Redecorated reach n (peek p) (peek q)
  | label {a : Ty} {n : Nat} (l : String) {p q : Parser β a} (part : Redecorated reach n p q) :
    Redecorated reach n (label l p) (label l q)
  | isConsumed {a : Ty} {n : Nat} (message : String) {p q : Parser β a}
    (part : Redecorated reach defaultLookahead p q) :
    Redecorated reach n (isConsumed message p) (isConsumed message q)
  | notConsumed {a : Ty} {n : Nat} (message : String) {p q : Parser β a}
    (part : Redecorated reach defaultLookahead p q) :
    Redecorated reach n (notConsumed message p) (notConsumed message q)
  | test {a : Ty} {n : Nat} (check : a.Value β → Bool) (l : Option String) {p q : Parser β a}
    (part : Redecorated reach defaultLookahead p q) :
    Redecorated reach n (test check l p) (test check l q)
  | ifElse {a b : Ty} {n : Nat} {p q : Parser β a} {yes yes' : a.Value β → Parser β b}
    {no no' : Parser β b} (part : Redecorated reach defaultLookahead p q)
    (accept : ∀ v, Redecorated reach defaultLookahead (yes v) (yes' v))
    (refuse : Redecorated reach defaultLookahead no no') :
    Redecorated reach n (ifElse p yes no) (ifElse q yes' no')
  | tryCatch {a : Ty} {n : Nat} {p q : Parser β a}
    (handler : Option (a.Value β) → Key → Handling β (a.Value β))
    {resume resume' : Option (a.Value β) → Key → Parser β a}
    (part : Redecorated reach defaultLookahead p q)
    (resumed : ∀ v key, Redecorated reach defaultLookahead (resume v key) (resume' v key)) :
    Redecorated reach n (tryCatch p handler resume) (tryCatch q handler resume')
  | tryMap {a b : Ty} {n : Nat} (f : a.Value β → Except UserError (b.Value β)) {p q : Parser β a}
    (part : Redecorated reach defaultLookahead p q) :
    Redecorated reach n (tryMap f p) (tryMap f q)
  | sum {a : Ty} {n k : Nat} {ps qs : Fin k → Parser β a}
    (parts : ∀ i, Redecorated reach defaultLookahead (ps i) (qs i)) :
    Redecorated reach n (sum k ps) (sum k qs)
  | favored {a : Ty} {n k : Nat} (preference : Preference) {ps qs : Fin k → Parser β a}
    (parts : ∀ i, Redecorated reach defaultLookahead (ps i) (qs i)) :
    Redecorated reach n (favored preference k ps) (favored preference k qs)
  | loop {a b : Ty} {n : Nat} (min : Nat) (max : Option Nat)
    (finish : List (a.Value β) → b.Value β) {p q : Parser β a}
    (part : Redecorated reach defaultLookahead p q) :
    Redecorated reach n (loop p min max finish) (loop q min max finish)
  | nested {n : Nat} {opening opening' closing closing' body body' : Parser β .unit}
    (first : Redecorated reach defaultLookahead opening opening')
    (last : Redecorated reach defaultLookahead closing closing')
    (between : Redecorated reach defaultLookahead body body') :
    Redecorated reach n (nested opening closing body) (nested opening' closing' body')
  | lex {a : Ty} {n : Nat} (reader : TokenReader) {p q : Parser β a}
    (part : Redecorated reach defaultLookahead p q) :
    Redecorated reach n (lex p reader) (lex q reader)
  | parseTokens {a : Ty} {n : Nat} {lexer lexer' : Parser β (.list .lexeme)} {p q : Parser β a}
    (eofTitle : String) (render : Token → String) (origin : String)
    (lexers : Redecorated reach defaultLookahead lexer lexer')
    (part : Redecorated reach defaultLookahead p q) :
    Redecorated reach n (parseTokens lexer p eofTitle render origin)
      (parseTokens lexer' q eofTitle render origin)
  | scanChars {a b : Ty} {n : Nat} {outer outer' : Parser β a} {p q : Parser β b}
    (origin : String) (outers : Redecorated reach defaultLookahead outer outer')
    (part : Redecorated reach defaultLookahead p q) :
    Redecorated reach n (scanChars outer p origin) (scanChars outer' q origin)
  | traced {a : Ty} {n : Nat} (hook hook' : TraceEvent β a → List (Note β)) {p q : Parser β a}
    (part : Redecorated reach n p q) : Redecorated reach n (traced p hook) (traced q hook')
  | lazy {a : Ty} {n : Nat} {make make' : Unit → Parser β a}
    (part : Redecorated reach n (make ()) (make' ())) :
    Redecorated reach n (lazy make) (lazy make')
  | rule {n : Nat} (name : String) (reached : reach name n) :
    Redecorated reach n (rule name) (rule name)
  | named {a : Ty} {n : Nat} (name name' : String) {p q : Parser β a}
    (part : Redecorated reach n p q) : Redecorated reach n (named name p) (named name' q)
  | plus {a : Ty} {k : Nat} {ps qs : Fin k → Parser β a}
    (parts : ∀ i, Redecorated reach defaultLookahead (ps i) (qs i)) :
    Redecorated reach defaultLookahead (plus (List.ofFn ps)) (plus (List.ofFn qs))
  | plusAlike {a : Ty} {n k : Nat} {ps qs : List (Parser β a)} {us vs : Fin k → Parser β a}
    (first : ps.flatMap branches = List.ofFn us) (second : qs.flatMap branches = List.ofFn vs)
    (parts : ∀ i, Redecorated reach defaultLookahead (us i) (vs i)) :
    Redecorated reach n (plus ps) (plus qs)
  | not {a : Ty} {n : Nat} {p q : Parser β a} (part : Redecorated reach defaultLookahead p q) :
    Redecorated reach n (not p) (not q)
  | renameLeft {a : Ty} {n : Nat} (name : String) {p q : Parser β a}
    (part : Redecorated reach n p q) : Redecorated reach n (rename name p) q
  | renameRight {a : Ty} {n : Nat} (name : String) {p q : Parser β a}
    (part : Redecorated reach n p q) : Redecorated reach n p (rename name q)
  | traceLeft {a : Ty} {n : Nat} (hook : TraceEvent β a → List (Note β)) {p q : Parser β a}
    (part : Redecorated reach n p q) : Redecorated reach n (trace hook p) q
  | traceRight {a : Ty} {n : Nat} (hook : TraceEvent β a → List (Note β)) {p q : Parser β a}
    (part : Redecorated reach n p q) : Redecorated reach n p (trace hook q)

def Rules.Redecorated (reach : String → Nat → Prop) (rules rules' : Rules β) : Prop :=
  ∀ name n, reach name n →
    Option.Rel (Parser.Redecorated reach n) (rules.find? name) (rules'.find? name)

section

variable {reach : String → Nat → Prop}

theorem Parser.Redecorated.plus_of_forall₂ {ps qs : List (Parser β a)}
    (parts : List.Forall₂ (Redecorated reach defaultLookahead) ps qs) :
    Redecorated reach defaultLookahead (Parser.plus ps) (Parser.plus qs) := by
  have same := parts.length_eq
  have left : List.ofFn (fun i : Fin ps.length => ps[i]) = ps :=
    List.ext_getElem (by simp) (by simp)
  have right : List.ofFn (fun i : Fin ps.length => qs[i]) = qs :=
    List.ext_getElem (by simp [same]) (by simp)
  have both : Redecorated reach defaultLookahead
      (Parser.plus (List.ofFn fun i : Fin ps.length => ps[i]))
      (Parser.plus (List.ofFn fun i : Fin ps.length => qs[i])) :=
    .plus fun i => (List.forall₂_iff_get.1 parts).2 i i.isLt (same ▸ i.isLt)
  rwa [left, right] at both

theorem Parser.Redecorated.resembles {calls calls' : Calls β}
    (rules : ∀ name n, reach name n → (calls name).Resembles SameReport n (calls' name)) {n : Nat}
    {p q : Parser β a} (redecorated : Redecorated reach n p q) :
    (p.eval calls).Resembles SameReport n (q.eval calls') := by
  induction redecorated with
  | ret v => exact resembles_ret v
  | reject why => exact resembles_reject why why
  | raise key => exact resembles_raise key
  | abort message => exact resembles_abort message
  | fault message => exact resembles_fault SameReport.comparison message
  | getIndex => exact resembles_getIndex
  | eof l => exact resembles_eof l
  | token f => exact resembles_token SameReport.comparison f
  | char k f => exact resembles_char SameReport.comparison k f
  | pattern p l => exact resembles_pattern SameReport.comparison p l
  | matched _ ih => exact .matched SameReport.comparison ih
  | bind _ _ ih ihNext => exact ih.bind ihNext
  | atomize _ ih => exact ih.atomize
  | lookahead m _ ih => exact ih.lookahead m
  | stepBy m _ ih => exact ih.stepBy m
  | peek _ ih => exact ih.peek
  | label l _ ih => exact ih.label l
  | isConsumed message _ ih => exact ih.isConsumed message
  | notConsumed message _ ih => exact ih.notConsumed message
  | test check l _ ih => exact ih.test check l
  | ifElse _ _ _ ih ihYes ihNo => exact ih.ifElse ihYes ihNo
  | tryCatch handler _ _ ih ihResume => exact ih.tryCatch handler ihResume
  | tryMap f _ ih => exact ih.tryMap f
  | sum _ ih => exact resembles_sum (forall₂_ofFn ih)
  | favored preference _ ih => exact resembles_favored preference (forall₂_ofFn ih)
  | loop min max finish _ ih => exact ih.loop min max finish
  | nested _ _ _ ihOpening ihClosing ihBody =>
    exact .nested SameReport.comparison ihOpening ihClosing ihBody
  | lex reader _ ih => exact .lex SameReport.comparison reader ih
  | parseTokens eofTitle render origin _ _ ihLexer ih =>
    exact .parseTokens SameReport.comparison ihLexer ih eofTitle render origin
  | scanChars origin _ _ ihOuter ih => exact .scanChars SameReport.comparison ihOuter ih origin
  | traced hook hook' _ ih => exact ih.traced hook hook'
  | lazy _ ih => exact .lazy ih
  | rule name reached => exact rules name _ reached
  | named name name' _ ih => exact resembles_named_iff.2 (resembles_named_iff.2 ih.symm).symm
  | plus _ ih => exact resembles_plus (forall₂_ofFn ih)
  | plusAlike first second _ ih =>
    refine resembles_plus_of_branches ?_
    rw [first, second]
    exact forall₂_ofFn ih
  | not _ ih => exact ih.peek.ifElse (fun _ => resembles_reject _ _) (resembles_ret _)
  | renameLeft name _ ih => exact (resembles_rename_iff.2 ih.symm).symm
  | renameRight name _ ih => exact resembles_rename_iff.2 ih
  | traceLeft hook _ ih => exact (resembles_trace_iff.2 ih.symm).symm
  | traceRight hook _ ih => exact resembles_trace_iff.2 ih

theorem Rules.Redecorated.nil : Rules.Redecorated (β := β) reach [] [] := fun _ _ _ => .none

theorem Rules.Redecorated.cons {rules rules' : Rules β} {name : String} {p q : Parser β .base}
    (body : ∀ n, reach name n → p.Redecorated reach n q) (others : rules.Redecorated reach rules') :
    Rules.Redecorated reach ((name, p) :: rules) ((name, q) :: rules') := by
  intro called n reached
  by_cases same : called = name
  · subst same
    simpa [Rules.find?, List.lookup_cons] using Option.Rel.some (body n reached)
  · simpa [Rules.find?, List.lookup_cons, beq_false_of_ne same] using others called n reached

theorem Rules.Redecorated.calls_resemble {rules rules' : Rules β}
    (tables : rules.Redecorated reach rules') (depth : Nat) (name : String) (n : Nat)
    (reached : reach name n) :
    (rules.calls depth name).Resembles SameReport n (rules'.calls depth name) := by
  induction depth generalizing name n with
  | zero => exact fun _ _ _ same => resembles_of_still same (.error .exhausted) rfl rfl
  | succ depth ih =>
    simp only [Rules.calls]
    have bodies := tables name n reached
    generalize rules.find? name = body at bodies ⊢
    generalize rules'.find? name = body' at bodies ⊢
    cases bodies with
    | none => exact resembles_fault SameReport.comparison _
    | some both => exact both.resembles ih

end

/-- Names and hooks change nothing about what is parsed but the frames of a fault. -/
theorem Parser.redecorated_parses_alike {reach : String → Nat → Prop} {rules rules' : Rules β}
    (tables : rules.Redecorated reach rules') {n : Nat} {p q : Parser β a}
    (redecorated : p.Redecorated reach n q) (depth : Nat) (env : Env) (s : State β) :
    let o := p.eval (rules.calls depth) env n s
    let o' := q.eval (rules'.calls depth) env n s
    o.reply.mapError Failure.unframed = o'.reply.mapError Failure.unframed ∧
      o.state.offset = o'.state.offset ∧ o.state.steps = o'.state.steps := by
  obtain ⟨replies, offset, grows, grows', gain⟩ :=
    redecorated.resembles (tables.calls_resemble depth) env s s rfl
  refine ⟨Reply.resembles_iff.1 replies, offset, ?_⟩
  simp only [State.steps]
  omega

theorem Parser.pairs_parse_alike :
    let letter (c : Char) : Parser Nat .base := .char (CharClass.oneOf [c]) fun c => c.toNat
    let pair (c d : Char) : Parser Nat .base := atomize (seqRight (letter c) (letter d))
    let pairs : Parser Nat .base := plus [pair 'a' 'b', pair 'a' 'c']
    let signed : Parser Nat .base := seqRight (letter '-') (.rule "item")
    let hook : TraceEvent Nat .base → List (Note Nat) := fun e => [e.message "signed" "seen"]
    let rules : Rules Nat := [("item", plus [pairs, signed])]
    let rules' : Rules Nat :=
      [("item", rename "item" (plus [rename "pairs" pairs, trace hook signed]))]
    let reach : String → Nat → Prop := fun _ n => n = 1
    let env := Env.ofText "--ac".toList "signs" (PositionMap.ofSource [])
    let s : State Nat := env.stateAt .start
    let o := (Parser.rule "item").eval (rules.calls 4) env 1 s
    let o' := (Parser.rule "item").eval (rules'.calls 4) env 1 s
    rules.Redecorated reach rules' ∧
      Parser.Redecorated (β := Nat) reach 1 (.rule "item") (.rule "item") ∧
      o'.state.offset = 4 ∧
      o.reply.mapError Failure.unframed = o'.reply.mapError Failure.unframed ∧
      o.state.offset = o'.state.offset ∧ o.state.steps = o'.state.steps := by
  intro letter pair pairs signed hook rules rules' reach env s o o'
  have pairOnce (c d : Char) : Redecorated reach 1 (pair c d) (pair c d) :=
    .atomize (.bind (.char _ _) fun _ => .char _ _)
  have pairsOnce : Redecorated reach 1 pairs pairs :=
    .plus_of_forall₂ (.cons (pairOnce 'a' 'b') (.cons (pairOnce 'a' 'c') .nil))
  have signedOnce : Redecorated reach 1 signed signed :=
    .bind (.char _ _) fun _ => .rule "item" rfl
  have itemOnce : Redecorated reach 1 (plus [pairs, signed])
      (rename "item" (plus [rename "pairs" pairs, trace hook signed])) :=
    .renameRight "item" (.plus_of_forall₂
      (.cons (.renameRight "pairs" pairsOnce) (.cons (.traceRight hook signedOnce) .nil)))
  have tables : rules.Redecorated reach rules' :=
    .cons (fun _ reached => reached ▸ itemOnce) .nil
  have redecorated : Redecorated (β := Nat) reach 1 (.rule "item") (.rule "item") :=
    .rule "item" rfl
  -- The kernel runs the parser; the elaborator would take seconds to.
  have read : o'.state.offset = 4 := by decide +kernel
  exact ⟨tables, redecorated, read, redecorated_parses_alike tables redecorated 4 env s⟩

theorem Parser.named_pairs_stop_lookahead :
    let letter (c : Char) : Parser Nat .base := .char (CharClass.oneOf [c]) fun c => c.toNat
    let pairs : Parser Nat .base :=
      plus [seqRight (letter 'a') (letter 'b'), seqRight (letter 'a') (letter 'c')]
    let p : Parser Nat .base := lookahead 2 (plus [pairs, letter 'd'])
    let q : Parser Nat .base := lookahead 2 (plus [rename "pairs" pairs, letter 'd'])
    let env := Env.ofText "ac".toList "pairs" (PositionMap.ofSource [])
    let s : State Nat := env.stateAt .start
    (p.eval (Rules.calls [] 0) env 1 s).reply = .ok 99 ∧
      (q.eval (Rules.calls [] 0) env 1 s).reply = .error .fail :=
  ⟨rfl, rfl⟩

end Descent
