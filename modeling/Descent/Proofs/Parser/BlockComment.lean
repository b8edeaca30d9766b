import Descent.Proofs.Parser.Scanning
import Descent.Proofs.Pattern.Closing

set_option autoImplicit false

namespace Descent

open Text (size)
open Matcher (ReadsUpTo text throughFirst)

variable {β : Type} {env : Env} {w : Window}

theorem Matcher.opened_cases (opening closing s : List Char) :
    let m := (text opening).andThen (throughFirst closing)
    (m s = none ∧ ∀ b r, s ≠ opening ++ (b ++ (closing ++ r))) ∨
      ∃ b r, s = opening ++ (b ++ (closing ++ r)) ∧ m s = some (size (opening ++ (b ++ closing))) ∧
        ∀ b' r', b ++ (closing ++ r) = b' ++ (closing ++ r') → b.length ≤ b'.length := by
  intro m
  by_cases opens : opening <+: s
  · obtain ⟨rest, rfl⟩ := opens
    have goes : m (opening ++ rest) = (throughFirst closing rest).map (size opening + ·) := by
      simp [m, Matcher.andThen, text, Matcher.after, Text.drop?_size_append]
    rw [goes]
    rcases throughFirst_cases closing rest with ⟨missed, nowhere⟩ | ⟨b, r, rfl, found, first⟩
    · refine .inl ⟨by rw [missed, Option.map_none], fun b r same => nowhere ?_⟩
      exact ⟨b, r, (List.append_assoc ..).trans (List.append_cancel_left same).symm⟩
    · exact .inr ⟨b, r, rfl, by simp [found], first⟩
  · refine .inl ⟨by simp [m, Matcher.andThen, text, opens], fun b r same => opens ?_⟩
    exact ⟨_, same.symm⟩

namespace Scanner

open Descent.Action

variable {calls : Calls β} {opening closing : String} {body : Pattern}

theorem openedBody_scans (input : env.input = .chars w)
    (reads : ReadsUpTo closing.toList body.run) (l : String) :
    ((Parser.seqRight (.pattern (Pattern.andThen (Pattern.string opening) (.many 0 body)) l)
      (string closing) : Scanner β).eval calls).Scans env w
        ((text opening.toList).andThen (throughFirst closing.toList)) := by
  have scans := (Scans.pattern (β := β) input
    (Pattern.andThen (Pattern.string opening) (.many 0 body)) l).bind
      (fun _ => (Scans.pattern input (Pattern.string closing) closing).echoes) (Pattern.run_fits _)
  rw [Pattern.andThen_run, Matcher.andThen_assoc _ (Pattern.run_fits _), Pattern.string,
    Pattern.string, Pattern.run, Pattern.run, Pattern.run, reads.throughFirst] at scans
  exact scans

theorem openingAndBody_scans (input : env.input = .chars w)
    (reads : ReadsUpTo closing.toList body.run) (l : String) :
    ((Parser.sequence () [string opening, .pattern (.many 0 body) l, string closing] :
      Scanner β).eval calls).Scans env w
        ((text opening.toList).andThen (throughFirst closing.toList)) := by
  have last := (Scans.pattern (β := β) input (Pattern.string closing) closing).mapRet
    (b := .unit) id
  have rest := (Scans.pattern (β := β) input (.many 0 body) l).bind (fun _ => last.echoes)
    last.fits
  have scans := (Scans.pattern (β := β) input (Pattern.string opening) opening).bind
    (fun _ => rest.echoes) rest.fits
  rw [Pattern.string, Pattern.string, Pattern.run, Pattern.run, Pattern.run,
    reads.throughFirst] at scans
  exact scans

def EndsAtFirst (p : Scanner β) (opening closing : String) : Prop :=
  ∀ (calls : Calls β) (w : Window) (origin : String) (positions : PositionMap) (n : Nat)
    (s : State β),
    let o := p.eval calls ⟨.chars w, origin, positions⟩ n s
    let Comment (b r : List Char) :=
      w.rest? s.offset = some (opening.toList ++ (b ++ (closing.toList ++ r)))
    ((∃ t, o = ⟨.ok (), t⟩) ↔ ∃ b r, Comment b r) ∧
      (∀ t b r, o = ⟨.ok (), t⟩ → Comment b r → (∀ b' r', Comment b' r' → b.length ≤ b'.length) →
        t.offset = s.offset + size (opening.toList ++ (b ++ closing.toList))) ∧
      ((∀ b r, ¬ Comment b r) → ∃ t, o = ⟨.error .fail, t⟩)

theorem endsAtFirst_of_scans {p : Scanner β}
    (scans : ∀ (calls : Calls β) (w : Window) (origin : String) (positions : PositionMap),
      (p.eval calls).Scans ⟨.chars w, origin, positions⟩ w
        ((text opening.toList).andThen (throughFirst closing.toList)))
    (same : ∀ (calls : Calls β) (env : Env) (n : Nat) (s : State β),
      p.eval calls env n s = (p.eval calls).run env s) :
    p.EndsAtFirst opening closing := by
  intro calls w origin positions n s o Comment
  have ran : o = (p.eval calls).run ⟨.chars w, origin, positions⟩ s := same _ _ n s
  have cases : (∃ t, o = ⟨.error .fail, t⟩) ∧ (∀ b r, ¬ Comment b r) ∨
      ∃ b r t, Comment b r ∧ (∀ b' r', Comment b' r' → b.length ≤ b'.length) ∧ o = ⟨.ok (), t⟩ ∧
        t.offset = s.offset + size (opening.toList ++ (b ++ closing.toList)) := by
    rw [ran]
    cases here : w.rest? s.offset with
    | none => exact .inl ⟨(scans calls w origin positions).blind s here, by simp [Comment, here]⟩
    | some rest =>
      have echo := (scans calls w origin positions).echoes s rest here
      rcases Matcher.opened_cases opening.toList closing.toList rest with
        ⟨none, nowhere⟩ | ⟨b, r, rfl, found, first⟩
      · rw [none] at echo
        obtain ⟨t, failed⟩ := echo.of_none
        exact .inl ⟨⟨t, failed⟩, fun b r there =>
          nowhere b r (Option.some.inj (here.symm.trans there))⟩
      · rw [found] at echo
        obtain ⟨_, t, ok, offset⟩ := echo.of_some
        refine .inr ⟨b, r, t, here, fun b' r' there => ?_, ok, offset⟩
        exact first b' r' (List.append_cancel_left (Option.some.inj (here.symm.trans there)))
  rcases cases with ⟨⟨t, failed⟩, nowhere⟩ | ⟨b, r, t, here, first, ok, offset⟩
  · rw [failed]
    refine ⟨⟨?_, fun ⟨b, r, here⟩ => absurd here (nowhere b r)⟩, ?_, fun _ => ⟨t, rfl⟩⟩
    · rintro ⟨u, ⟨⟩⟩
    · rintro u b r ⟨⟩
  · rw [ok]
    refine ⟨⟨fun _ => ⟨b, r, here⟩, fun _ => ⟨t, rfl⟩⟩, ?_,
      fun nowhere => absurd here (nowhere b r)⟩
    rintro u b' r' ⟨⟩ here' first'
    have length := Nat.le_antisymm (first b' r' here') (first' b r here)
    have rest := List.append_cancel_left (Option.some.inj (here.symm.trans here'))
    rw [offset, (List.append_inj rest length).1]

/-- Whichever way it is put together, a block comment ends at the first closing text. -/
theorem block_comments_end_at_first (opening closing : String) :
    (blockComment opening closing : Scanner β).EndsAtFirst opening closing ∧
      (blockCommentOf opening closing (.atLeast 1) : Scanner β).EndsAtFirst opening closing ∧
      (javaBlockComment : Scanner β).EndsAtFirst "/*" "*/" ∧
      (haskellBlockComment : Scanner β).EndsAtFirst "\x7b-" "-\x7d" := by
  have refusing : ReadsUpTo closing.toList (Pattern.notString closing).run := by
    rw [Pattern.notString, Pattern.run]
    exact Matcher.except_readsUpTo closing.toList
  have negating : ReadsUpTo closing.toList
      (Pattern.andThen (.not (Pattern.string closing)) (.atLeast 1)).run := by
    rw [Matcher.not_andThen_atLeast_run]
    exact Matcher.except_readsUpTo closing.toList
  have java : ReadsUpTo "*/".toList (notPair '*' '/').run := Matcher.notPair_readsUpTo '*' '/'
  have haskell : ReadsUpTo "-\x7d".toList (notPair '-' '\x7d').run :=
    Matcher.notPair_readsUpTo '-' '\x7d'
  refine ⟨?_, ?_, ?_, ?_⟩
  · exact endsAtFirst_of_scans (fun _ _ _ _ => (openedBody_scans rfl refusing _).named _)
      fun _ _ _ _ => rfl
  · exact endsAtFirst_of_scans (fun _ _ _ _ => openedBody_scans rfl negating _)
      fun _ _ _ _ => rfl
  · exact endsAtFirst_of_scans (fun _ _ _ _ => (openingAndBody_scans rfl java _).named _)
      fun _ _ _ _ => rfl
  · exact endsAtFirst_of_scans (fun _ _ _ _ => (openingAndBody_scans rfl haskell _).named _)
      fun _ _ _ _ => rfl

end Scanner

end Descent
