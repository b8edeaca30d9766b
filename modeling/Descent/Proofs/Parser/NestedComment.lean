import Descent.Proofs.Parser.Scanning

set_option autoImplicit false

namespace Descent

open Text (size)

section Grammar

variable {opening closing : List Char}

/-- The first text is a body with the second one after it. -/
inductive CommentBody (opening closing : List Char) : List Char → List Char → Prop
  | none (r : List Char) : CommentBody opening closing [] r
  | comment {b t r : List Char} (unclosed : ¬ closing <+: opening ++ (b ++ (closing ++ (t ++ r))))
    (inner : CommentBody opening closing b (closing ++ (t ++ r)))
    (others : CommentBody opening closing t r) :
    CommentBody opening closing (opening ++ (b ++ (closing ++ t))) r
  | char {c : Char} {t r : List Char} (unclosed : ¬ closing <+: c :: (t ++ r))
    (plain : ¬ opening <+: c :: (t ++ r)) (others : CommentBody opening closing t r) :
    CommentBody opening closing (c :: t) r

def NestedComment (opening closing t r : List Char) : Prop :=
  ∃ b, t = opening ++ (b ++ closing) ∧ CommentBody opening closing b (closing ++ r)

def ClosesAll (opening closing : List Char) : Nat → List Char → List Char → Prop
  | 0, t, _ => t = []
  | n + 1, t, r => ∃ b t', t = b ++ (closing ++ t') ∧
      CommentBody opening closing b (closing ++ (t' ++ r)) ∧ ClosesAll opening closing n t' r

theorem nestedComment_iff {t r : List Char} :
    NestedComment opening closing t r ↔
      ∃ t', t = opening ++ t' ∧ ClosesAll opening closing 1 t' r := by
  constructor
  · rintro ⟨b, rfl, body⟩
    exact ⟨b ++ closing, rfl, b, [], by simp, body, rfl⟩
  · rintro ⟨_, rfl, b, t', rfl, body, rfl⟩
    exact ⟨b, by simp, body⟩

theorem CommentBody.eq_nil {b r : List Char} (body : CommentBody opening closing b r)
    (closes : closing <+: b ++ r) : b = [] := by
  cases body with
  | none => rfl
  | comment unclosed => exact absurd (by simpa using closes) unclosed
  | char unclosed => exact absurd closes unclosed

namespace ClosesAll

variable {n : Nat} {t r rest : List Char}

theorem closes_iff (whole : closing ++ rest = t ++ r) :
    ClosesAll opening closing (n + 1) t r ↔
      ∃ t', t = closing ++ t' ∧ ClosesAll opening closing n t' r := by
  constructor
  · rintro ⟨b, t', rfl, body, others⟩
    obtain rfl := body.eq_nil ⟨rest, by simpa using whole⟩
    exact ⟨t', rfl, others⟩
  · rintro ⟨t', rfl, others⟩
    exact ⟨[], t', rfl, .none _, others⟩

theorem opens_iff (unclosed : ¬ closing <+: opening ++ rest) (whole : opening ++ rest = t ++ r) :
    ClosesAll opening closing (n + 1) t r ↔
      ∃ t', t = opening ++ t' ∧ ClosesAll opening closing (n + 2) t' r := by
  rw [whole] at unclosed
  constructor
  · rintro ⟨_, t', rfl, body, others⟩
    cases body with
    | none => exact absurd (by simp) unclosed
    | @comment b t _ _ inner outer =>
      exact ⟨b ++ (closing ++ (t ++ (closing ++ t'))), by simp, b, t ++ (closing ++ t'), rfl,
        by simpa using inner, t, t', rfl, outer, others⟩
    | char _ plain => exact absurd ⟨rest, by simpa using whole⟩ plain
  · rintro ⟨_, rfl, b, _, rfl, inner, t, t', rfl, outer, others⟩
    refine ⟨opening ++ (b ++ (closing ++ t)), t', by simp, .comment ?_ ?_ outer, others⟩
    · simpa using unclosed
    · simpa using inner

theorem char_iff {c : Char} (unclosed : ¬ closing <+: c :: rest) (plain : ¬ opening <+: c :: rest)
    (whole : c :: rest = t ++ r) :
    ClosesAll opening closing (n + 1) t r ↔
      ∃ t', t = c :: t' ∧ ClosesAll opening closing (n + 1) t' r := by
  rw [whole] at unclosed plain
  constructor
  · rintro ⟨_, t', rfl, body, others⟩
    cases body with
    | none => exact absurd (by simp) unclosed
    | comment => exact absurd (by simp) plain
    | @char d b _ _ _ body =>
      obtain ⟨rfl, -⟩ := List.cons.inj whole
      exact ⟨b ++ (closing ++ t'), rfl, b, t', rfl, body, others⟩
  · rintro ⟨_, rfl, b, t', rfl, body, others⟩
    exact ⟨c :: b, t', rfl, .char (by simpa using unclosed) (by simpa using plain) body, others⟩

theorem ne_nil (some : closing ≠ []) (all : ClosesAll opening closing (n + 1) t r) : t ≠ [] := by
  obtain ⟨b, t', rfl, -⟩ := all
  simp [some]

end ClosesAll

end Grammar

variable {β : Type} {a : Ty} {env : Env} {w : Window}

inductive Outcome.Finds (w : Window) (first : Nat) (related : List Char → List Char → Prop) :
    Outcome β a → Prop
  | found {t r : List Char} (v : a.Value β) (u : State β) (here : w.rest? first = some (t ++ r))
    (both : related t r) (only : ∀ t' r', t ++ r = t' ++ r' → related t' r' → t = t')
    (offset : u.offset = first + size t) : Finds w first related ⟨.ok v, u⟩
  | missed (u : State β) (nowhere : ∀ t r, w.rest? first = some (t ++ r) → ¬ related t r) :
    Finds w first related ⟨.error .fail, u⟩

theorem Outcome.Finds.after {first : Nat} {related related' : List Char → List Char → Prop}
    {p rest : List Char} {o : Outcome β a} (finds : o.Finds w (first + size p) related')
    (here : w.rest? first = some (p ++ rest))
    (split : ∀ {t r}, p ++ rest = t ++ r → (related t r ↔ ∃ t', t = p ++ t' ∧ related' t' r)) :
    o.Finds w first related := by
  have there := Window.rest?_append here
  cases finds with
  | @found t r v u found both only offset =>
    obtain rfl := Option.some.inj (there.symm.trans found)
    have whole : w.rest? first = some ((p ++ t) ++ r) := by rw [here, List.append_assoc]
    refine .found v u whole ((split (List.append_assoc ..).symm).2 ⟨t, rfl, both⟩) ?_ ?_
    · intro t' r' same both'
      rw [List.append_assoc] at same
      obtain ⟨t'', rfl, both''⟩ := (split same).1 both'
      rw [List.append_assoc] at same
      rw [only t'' r' (List.append_cancel_left same) both'']
    · rw [offset, Text.size_append, Nat.add_assoc]
  | missed u nowhere =>
    refine .missed u fun t r found both => ?_
    have same := Option.some.inj (here.symm.trans found)
    obtain ⟨t', rfl, both'⟩ := (split same).1 both
    rw [List.append_assoc] at same
    exact nowhere t' r (there.trans (congrArg some (List.append_cancel_left same))) both'

theorem State.moved {s t : State β} {p : List Char} (offset : t.offset = s.offset + size p)
    (some : p ≠ []) : t.cursor.movedFrom s.cursor = true := by
  have further := Text.size_pos some
  simp only [State.offset] at offset
  simp only [Cursor.movedFrom, bne_iff_ne]
  omega

namespace Action

variable {opening closing : List Char} {x y z : Action β .unit}

theorem nestedFrom_finds (opens : x.Mirrors env w (Matcher.text opening))
    (closes : y.Mirrors env w (Matcher.text closing))
    (any : z.Mirrors env w (Matcher.charWhere fun _ => true)) (opened : opening ≠ [])
    (closed : closing ≠ []) (level : Nat) {fuel : Nat} {s : State β} {rest : List Char}
    (here : w.rest? s.offset = some rest) (enough : size rest < fuel) :
    (nestedFrom x y z env fuel level s).Finds w s.offset (ClosesAll opening closing level) := by
  induction fuel generalizing level s rest with
  | zero => omega
  | succ fuel ih =>
    cases level with
    | zero => exact .found _ s (t := []) here rfl (fun _ _ _ closes => closes.symm) rfl
    | succ level =>
      -- What the first scanner to match takes is what the grammar requires to come first.
      have later {level : Nat} {t : State β} {p rest' : List Char} (some : p ≠ [])
          (whole : rest = p ++ rest') (offset : t.offset = s.offset + size p) :
          (nestedFrom x y z env fuel level t).Finds w (s.offset + size p)
            (ClosesAll opening closing level) := by
        subst whole
        have shorter : size rest' < fuel := by
          have := Text.size_pos some
          rw [Text.size_append] at enough
          omega
        exact offset ▸ ih level (offset ▸ Window.rest?_append here) shorter
      simp only [nestedFrom]
      rcases closes.step here with
        ⟨misses, t, run, still⟩ | ⟨p, rest', v, t, whole, matched, run, offset, -⟩
      · have unclosed := Matcher.text_eq_none.1 misses
        simp only [run, Failure.isFail, State.unmoved still, Bool.not_false, Bool.and_self, if_true]
        rcases opens.step (still ▸ here) with
          ⟨misses, u, run, stays⟩ | ⟨p, rest', v, u, whole, matched, run, offset, -⟩
        · have plain := Matcher.text_eq_none.1 misses
          have still : u.offset = s.offset := stays.trans still
          simp only [run, State.unmoved still, Bool.not_false, Bool.and_self, if_true]
          rcases any.step (still ▸ here) with
            ⟨misses, v, run, -⟩ | ⟨p, rest', _, v, whole, matched, run, offset, -⟩
          · cases rest with
            | cons c rest => simp [Matcher.charWhere] at misses
            | nil =>
              simp only [run, andThen]
              refine .missed v fun t r found all => all.ne_nil closed ?_
              exact (List.append_eq_nil_iff.1 (Option.some.inj (here.symm.trans found)).symm).1
          · subst whole
            obtain ⟨c, rfl, -⟩ := (Matcher.charWhere_recognizes _).iff_related.1 matched
            have some := List.cons_ne_nil c []
            rw [still] at offset
            simp only [run, andThen, State.moved offset some, if_true]
            exact (later some rfl offset).after here (ClosesAll.char_iff unclosed plain)
        · subst whole
          obtain rfl := (Matcher.text_recognizes opening).iff_related.1 matched
          rw [still] at offset
          simp only [run, State.moved offset opened, if_true]
          exact (later opened rfl offset).after here (ClosesAll.opens_iff unclosed)
      · subst whole
        obtain rfl := (Matcher.text_recognizes closing).iff_related.1 matched
        simp only [run, State.moved offset closed, if_true]
        exact (later closed rfl offset).after here ClosesAll.closes_iff

theorem nested_finds (input : env.input = .chars w)
    (blind : ∀ s, w.rest? s.offset = none → ∃ t, x.run env s = ⟨.error .fail, t⟩)
    (opens : x.Mirrors env w (Matcher.text opening))
    (closes : y.Mirrors env w (Matcher.text closing))
    (any : z.Mirrors env w (Matcher.charWhere fun _ => true)) (opened : opening ≠ [])
    (closed : closing ≠ []) (s : State β) :
    ((nested x y z).run env s).Finds w s.offset (NestedComment opening closing) := by
  rw [run, nested]
  cases here : w.rest? s.offset with
  | none =>
    obtain ⟨t, failed⟩ := blind s here
    rw [failed]
    exact .missed t (by simp [here])
  | some rest =>
    rcases opens.step here with
      ⟨misses, t, ran, -⟩ | ⟨p, rest', v, t, rfl, matched, ran, offset, there⟩
    · rw [ran]
      refine .missed t fun t r found comment => Matcher.text_eq_none.1 misses ?_
      obtain ⟨t', rfl, -⟩ := nestedComment_iff.1 comment
      obtain rfl := Option.some.inj (here.symm.trans found)
      exact ⟨t' ++ r, (List.append_assoc ..).symm⟩
    · obtain rfl := (Matcher.text_recognizes opening).iff_related.1 matched
      have stop : env.stop = w.stop := by rw [Env.stop, input]
      have enough : size rest' < env.stop - t.offset + 2 := by
        have := Window.size_rest? there
        omega
      have later := nestedFrom_finds opens closes any opened closed 1 there enough
      rw [ran, andThen]
      rw [offset] at later ⊢
      exact later.after here fun _ => nestedComment_iff

theorem named_finds {x : Action β a} {s : State β} {first : Nat}
    {related : List Char → List Char → Prop} (finds : (x.run env s).Finds w first related)
    (name : String) : ((named name x).run env s).Finds w first related := by
  simp only [run, named] at finds ⊢
  generalize x env defaultLookahead s = o at finds ⊢
  cases finds with
  | found v u here both only offset => exact .found v u here both only offset
  | missed u nowhere => exact .missed u nowhere

end Action

namespace Scanner

open Descent.Action

variable {opening closing : String} {calls : Calls β}

theorem nestedComment_finds (input : env.input = .chars w) (opened : opening ≠ "")
    (closed : closing ≠ "") (s : State β) :
    (((nestedComment opening closing : Scanner β).eval calls).run env s).Finds w s.offset
      (NestedComment opening.toList closing.toList) := by
  have text (u : String) : (Action.pattern (Pattern.string u) u : Action β .unit).Mirrors env w
      (Matcher.text u.toList) := by
    have mirrors := Mirrors.pattern (β := β) input (Pattern.string u) u
    rwa [Pattern.string, Pattern.run] at mirrors
  have blind := (Scans.pattern (β := β) input (Pattern.string opening) opening).blind
  have any := Mirrors.char (β := β) (a := .unit) input CharClass.always fun _ => ()
  have opened : opening.toList ≠ [] := fun none => opened (String.toList_eq_nil_iff.1 none)
  have closed : closing.toList ≠ [] := fun none => closed (String.toList_eq_nil_iff.1 none)
  exact named_finds (nested_finds input blind (text opening) (text closing) any opened closed s) _

/-- A comment is read where the grammar has one, which is never more than one; elsewhere the scanner
fails. -/
theorem nested_comments_follow_grammar (opened : opening ≠ "") (closed : closing ≠ "")
    (calls : Calls β) (w : Window) (origin : String) (positions : PositionMap) (n : Nat)
    (s : State β) :
    let o := (nestedComment opening closing : Scanner β).eval calls
      ⟨.chars w, origin, positions⟩ n s
    let Comment (t : List Char) := ∃ r, w.rest? s.offset = some (t ++ r) ∧
      NestedComment opening.toList closing.toList t r
    ((∃ u, o = ⟨.ok (), u⟩) ↔ ∃ t, Comment t) ∧
      (∀ t t', Comment t → Comment t' → t = t') ∧
      (∀ t, Comment t → ∃ u, o = ⟨.ok (), u⟩ ∧ u.offset = s.offset + size t) ∧
      ((∀ t, ¬ Comment t) → ∃ u, o = ⟨.error .fail, u⟩) := by
  intro o Comment
  have finds : o.Finds w s.offset (NestedComment opening.toList closing.toList) :=
    nestedComment_finds rfl opened closed s
  clear_value o
  cases finds with
  | @found t r _ u here both only offset =>
    have comment : Comment t := ⟨r, here, both⟩
    have same (t' : List Char) (other : Comment t') : t = t' := by
      obtain ⟨r', here', both'⟩ := other
      exact only t' r' (Option.some.inj (here.symm.trans here')) both'
    refine ⟨⟨fun _ => ⟨t, comment⟩, fun _ => ⟨u, rfl⟩⟩, fun t' t'' other other' => ?_,
      fun t' other => ⟨u, rfl, ?_⟩, fun none => absurd comment (none t)⟩
    · exact (same t' other).symm.trans (same t'' other')
    · rw [offset, same t' other]
  | missed u nowhere =>
    have none (t : List Char) : ¬ Comment t := fun ⟨r, here, both⟩ => nowhere t r here both
    refine ⟨⟨?_, fun ⟨t, comment⟩ => absurd comment (none t)⟩, fun t _ comment => ?_,
      fun t comment => absurd comment (none t), fun _ => ⟨u, rfl⟩⟩
    · rintro ⟨u, ⟨⟩⟩
    · exact absurd comment (none t)

theorem nested_comments_between_shared_characters :
    let w := Window.make "/*/**/*/*/".toList 10
    let o := (nestedComment "/*" "*/" : Scanner Nat).eval (Rules.calls [] 0)
      ⟨.chars w, "text", PositionMap.ofSource []⟩ 1 ⟨.start, none, none, 0, []⟩
    "/*" ≠ "" ∧ "*/" ≠ "" ∧ ∃ u, o = ⟨.ok (), u⟩ ∧ u.offset = 8 := by
  intro w o
  have opened : "/*" ≠ "" := by decide
  have closed : "*/" ≠ "" := by decide
  obtain ⟨-, -, reads, -⟩ := nested_comments_follow_grammar (β := Nat) opened closed
    (Rules.calls [] 0) w "text" (PositionMap.ofSource []) 1 ⟨.start, none, none, 0, []⟩
  have here : w.rest? 0 = some ("/*/**/*/".toList ++ "*/".toList) :=
    (Window.rest?_eq_slice? _ _).trans rfl
  have body : CommentBody "/*".toList "*/".toList "/**/".toList ("*/".toList ++ "*/".toList) :=
    .comment (b := []) (t := []) (by decide) (.none _) (.none _)
  exact ⟨opened, closed, reads "/*/**/*/".toList ⟨_, here, _, rfl, body⟩⟩

end Scanner

end Descent
