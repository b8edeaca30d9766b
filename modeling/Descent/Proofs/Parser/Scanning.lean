import Descent.Proofs.Parser.Mirror
import Descent.Token.Lexer

set_option autoImplicit false

namespace Descent

open Text (size)

variable {β : Type} {a b : Ty} {env : Env} {w : Window}

namespace Action

variable {x : Action β a} {m m' : Matcher}

structure Scans (env : Env) (w : Window) (x : Action β a) (m : Matcher) : Prop where
  echoes : x.Echoes env w m
  fits : m.Fits
  blind : ∀ s, w.rest? s.offset = none → ∃ t, x.run env s = ⟨.error .fail, t⟩

namespace Scans

theorem pattern (input : env.input = .chars w) (p : Pattern) (l : String) :
    (Action.pattern p l : Action β .unit).Scans env w p.run where
  echoes := (Mirrors.pattern input p l).echoes
  fits := p.run_fits
  blind s nothing := by
    rcases pattern_cases input p l s with ⟨-, t, ran, -⟩ | ⟨k, matched, -⟩
    · exact ⟨t, ran⟩
    · rw [nothing] at matched
      cases matched

theorem bind {f : a.Value β → Action β b} (scans : x.Scans env w m)
    (next : ∀ v, (f v).Echoes env w m') (fits : m'.Fits) :
    (Action.bind x f).Scans env w (m.andThen m') where
  fits := (scans.fits.recognizes.andThen fits.recognizes).fits
  echoes := by
    intro s rest here
    have echo := scans.echoes s rest here
    rw [run_bind, Matcher.andThen]
    generalize found : m rest = r at echo ⊢
    generalize x.run env s = o at echo ⊢
    cases echo with
    | missed t => exact .missed t
    | found v t offset =>
      obtain ⟨p, rest', rfl, rfl⟩ := scans.fits rest _ found
      have there : w.rest? t.offset = some rest' := offset ▸ Window.rest?_append here
      have later := next v t rest' there
      rw [offset] at later
      rw [Option.bind_some, Matcher.after, Text.drop?_size_append, Option.bind_some]
      exact later.after
  blind := by
    intro s nothing
    obtain ⟨t, failed⟩ := scans.blind s nothing
    refine ⟨t, ?_⟩
    rw [run_bind, failed]
    rfl

theorem mapRet (scans : x.Scans env w m) (g : a.Value β → b.Value β) :
    (Action.bind x fun v => ret (g v)).Scans env w m where
  echoes := scans.echoes.mapRet g
  fits := scans.fits
  blind := by
    intro s nothing
    obtain ⟨t, failed⟩ := scans.blind s nothing
    refine ⟨t, ?_⟩
    rw [run_bind, failed]
    rfl

theorem named (scans : x.Scans env w m) (name : String) :
    (Action.named name x).Scans env w m where
  fits := scans.fits
  echoes := by
    intro s rest here
    have echo := scans.echoes s rest here
    simp only [run, Action.named] at echo ⊢
    generalize m rest = r at echo ⊢
    generalize x env defaultLookahead s = o at echo ⊢
    cases echo with
    | missed t => exact .missed t
    | found v t offset => exact .found v t offset
  blind := by
    intro s nothing
    obtain ⟨t, failed⟩ := scans.blind s nothing
    rw [run] at failed
    refine ⟨t, ?_⟩
    simp only [run, Action.named, failed]

theorem lex_run (scans : x.Scans env w m) (input : env.input = .chars w) (reader : TokenReader)
    (s : State β) :
    (∃ t, (lex x reader).run env s = ⟨.error .fail, t⟩ ∧
        ∀ rest, w.rest? s.offset = some rest → m rest = none) ∨
      ∃ p r t, w.rest? s.offset = some (p ++ r) ∧ m (p ++ r) = some (size p) ∧
        t.offset = s.offset + size p ∧
        ((∃ token, reader w.source s.offset (size p) = .ok token ∧
            (lex x reader).run env s =
              ok (a := .lexeme) ⟨s.offset, size p, token⟩ (t.setStep (s.steps + 1))) ∨
          ∃ e, reader w.source s.offset (size p) = .error e ∧
            (lex x reader).run env s = faulty (env.fault t.offset e.message) t) := by
  rw [run, lex]
  cases here : w.rest? s.offset with
  | none =>
    obtain ⟨t, failed⟩ := scans.blind s here
    exact .inl ⟨t, by rw [failed]; rfl, by simp⟩
  | some rest =>
    have echo := scans.echoes s rest here
    generalize found : m rest = r at echo
    generalize x.run env s = o at echo ⊢
    cases echo with
    | missed t =>
      refine .inl ⟨t, rfl, fun rest' same => ?_⟩
      rwa [← Option.some.inj same]
    | found v t offset =>
      obtain ⟨p, r, rfl, rfl⟩ := scans.fits rest _ found
      have window : env.window t.offset = .ok w := by simp only [Env.window, input]
      have length : t.offset - s.offset = size p := by omega
      refine .inr ⟨p, r, t, rfl, found, offset, ?_⟩
      cases read : reader w.source s.offset (size p) with
      | ok token =>
        exact .inl ⟨token, rfl, by simp only [andThen, window, length, read]⟩
      | error e =>
        exact .inr ⟨e, rfl, by simp only [andThen, window, length, read]⟩

theorem lex_reads (scans : x.Scans env w m) (input : env.input = .chars w) {reader : TokenReader}
    {s : State β} {p r : List Char} {token : Token} (here : w.rest? s.offset = some (p ++ r))
    (matched : m (p ++ r) = some (size p)) (read : reader w.source s.offset (size p) = .ok token) :
    ∃ t, (lex x reader).run env s = ⟨.ok ⟨s.offset, size p, token⟩, t⟩ ∧
      t.cursor = ⟨s.offset + size p, s.steps + 1⟩ := by
  have echo := scans.echoes s _ here
  rw [matched] at echo
  rw [run, lex]
  generalize x.run env s = o at echo ⊢
  cases echo with
  | found v t offset =>
    have window : env.window t.offset = .ok w := by simp only [Env.window, input]
    have length : t.offset - s.offset = size p := by omega
    refine ⟨t.setStep (s.steps + 1), by simp only [andThen, window, length, read, ok], ?_⟩
    rw [← offset]
    rfl

end Scans

theorem ofText_of_rest? {f : List Char → Except TokenError Token} {k : Nat} {p r : List Char}
    (here : w.rest? k = some (p ++ r)) : TokenReader.ofText f w.source k (size p) = f p := by
  rw [TokenReader.ofText, TokenReader.slice, Window.slice?_of_rest? here]
  rfl

end Action

namespace Scanner

open Descent.Action

variable {calls : Calls β}

def delimitedMatcher (p : Pattern) : Matcher :=
  p.run.andThen (Pattern.not (.inClass CharClass.wordPart)).run

theorem delimited_recognizes {p : Pattern} {related : List Char → List Char → Prop}
    (recognizes : p.run.Recognizes related) :
    (delimitedMatcher p).Recognizes fun t r =>
      related t r ∧ ∀ c ∈ r.head?, CharClass.wordPart.test c = false := by
  refine (recognizes.andThen (Pattern.not_recognizes _)).congr fun t r => ?_
  have ends : (Pattern.inClass CharClass.wordPart).run r = none ↔
      ∀ c ∈ r.head?, CharClass.wordPart.test c = false := by
    cases r <;> simp [Pattern.run, Matcher.charWhere]
  constructor
  · rintro ⟨t, _, rfl, both, rfl, misses⟩
    rw [List.append_nil]
    exact ⟨both, ends.1 misses⟩
  · rintro ⟨both, last⟩
    exact ⟨t, [], (List.append_nil t).symm, both, rfl, ends.2 last⟩

theorem delimited_scans (input : env.input = .chars w) (p : Pattern) (l : String) :
    ((delimited (.pattern p l) : Scanner β).eval calls).Scans env w (delimitedMatcher p) := by
  have notWord : ((Parser.notWith "alphanumeric" (inClass CharClass.wordPart) : Scanner β).eval
      calls).Echoes env w (Pattern.not (.inClass CharClass.wordPart)).run := by
    rw [Pattern.not_run]
    exact ifElse_echoes (Mirrors.pattern input _ _).peek (fun _ => mirrors_reject _)
      (mirrors_ret _)
  exact ((Scans.pattern input p l).bind (fun v => notWord.mapRet _) (Pattern.run_fits _)).named _

theorem between_scans (input : env.input = .chars w) (p p' p'' : Pattern) (l l' l'' : String) :
    ((Parser.between (.pattern p l) (.pattern p'' l'') (.pattern p' l') : Scanner β).eval
      calls).Scans env w (p.run.andThen (p'.run.andThen p''.run)) := by
  have rest : ((Parser.seqLeft (.pattern p' l') (.pattern p'' l'') : Scanner β).eval calls).Scans
      env w (p'.run.andThen p''.run) :=
    (Scans.pattern input p' l').bind (fun _ => ((Scans.pattern input p'' l'').mapRet _).echoes)
      p''.run_fits
  exact (Scans.pattern input p l).bind (fun _ => rest.echoes) rest.fits

theorem quotedBy_scans (input : env.input = .chars w) (opening closing : Char) :
    ((quotedBy opening closing : Scanner β).eval calls).Scans env w
      ((Pattern.andThen (.char opening) (Pattern.manyOf (CharClass.except closing))).run.andThen
        (Pattern.char closing).run) :=
  ((Scans.pattern input _ _).bind (fun _ => (Scans.pattern input (.char closing) _).echoes)
    (Pattern.run_fits _)).named _

end Scanner

def Lexer.Reads (calls : Calls β) (p : Lexer β) (text rest : List Char) (token : Token) : Prop :=
  ∀ (w : Window) (origin : String) (positions : PositionMap) (n : Nat) (s : State β),
    w.rest? s.offset = some (text ++ rest) →
      ∃ t, p.eval calls ⟨.chars w, origin, positions⟩ n s =
          ⟨.ok ⟨s.offset, size text, token⟩, t⟩ ∧
        t.cursor = ⟨s.offset + size text, s.steps + 1⟩

theorem Lexer.reads_of_scans {calls : Calls β} {p : Scanner β} {m : Matcher}
    {f : List Char → Except TokenError Token} {text rest : List Char} {token : Token}
    (scans : ∀ (w : Window) (origin : String) (positions : PositionMap),
      (p.eval calls).Scans ⟨.chars w, origin, positions⟩ w m)
    (matched : m (text ++ rest) = some (size text)) (read : f text = .ok token) (title : String) :
    Reads calls (.named title (.lex p (TokenReader.ofText f))) text rest token := by
  intro w origin positions n s here
  obtain ⟨t, ran, cursor⟩ := (scans w origin positions).lex_reads rfl here matched
    ((Action.ofText_of_rest? here).trans read)
  refine ⟨t, ?_, cursor⟩
  have lexed : Action.lex (p.eval calls) (TokenReader.ofText f) ⟨.chars w, origin, positions⟩ n s =
      ⟨.ok ⟨s.offset, size text, token⟩, t⟩ := ran
  show Action.named title (Action.lex (p.eval calls) (TokenReader.ofText f)) _ n s = _
  rw [Action.named, lexed]

end Descent
