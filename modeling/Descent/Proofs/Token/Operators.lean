import Mathlib.Data.List.Sort
import Descent.Proofs.Token.Vocabulary

set_option autoImplicit false

namespace Descent

open Text (size)

variable {β : Type} {env : Env} {w : Window} {s : State β} {name : String} {text : List Char}

theorem Text.size_toList (x : String) : size x.toList = x.utf8ByteSize := by
  have bytes (t : List Char) : size t = (String.ofList t).utf8ByteSize := by
    induction t with
    | nil => rfl
    | cons c t ih =>
      rw [Text.size_cons, ih, String.ofList_cons]
      simp
  rw [bytes, String.ofList_toList]

namespace Operators

structure LongestName (names : List String) (text : List Char) (name : String) : Prop where
  listed : name ∈ names
  some : name ≠ ""
  begins : name.toList <+: text
  longest : ∀ other ∈ names, other.toList <+: text → other.toList.length ≤ name.toList.length

theorem pairwise_ofList (names : List String) :
    (ofList names).names.Pairwise fun x y => y.utf8ByteSize ≤ x.utf8ByteSize := by
  let atLeast (x y : String) : Prop := y.utf8ByteSize ≤ x.utf8ByteSize
  have : IsTrans String atLeast := ⟨fun _ _ _ first second => Nat.le_trans second first⟩
  have : Std.Total atLeast := ⟨fun _ _ => Nat.le_total _ _⟩
  exact List.pairwise_mergeSort' atLeast _

theorem first_or_none (names : List String) (text : List Char) :
    (∃ before name after, (ofList names).names = before ++ name :: after ∧
        (∀ other ∈ before, ¬ other.toList <+: text) ∧ LongestName names text name) ∨
      ∀ name ∈ (ofList names).names, ¬ name.toList <+: text := by
  cases found : (ofList names).names.find? fun name => decide (name.toList <+: text) with
  | none => exact .inr (by simpa using List.find?_eq_none.1 found)
  | some name =>
    obtain ⟨begins, before, after, listed, earlier⟩ := List.find?_eq_some_iff_append.1 found
    have missing : ∀ other ∈ before, ¬ other.toList <+: text := by simpa using earlier
    have known : name ∈ names ∧ name ≠ "" := by
      rw [← mem_ofList, listed]
      simp
    have descending := pairwise_ofList names
    rw [listed, List.pairwise_append, List.pairwise_cons] at descending
    refine .inl ⟨before, name, after, listed, missing, known.1, known.2,
      of_decide_eq_true begins, ?_⟩
    intro other member there
    by_cases empty : other = ""
    next => simp [empty]
    next =>
      have place : other ∈ before ++ name :: after := by
        rw [← listed, mem_ofList]
        exact ⟨member, empty⟩
      rcases List.mem_append.1 place with first | rest
      next => exact absurd there (missing other first)
      rcases List.mem_cons.1 rest with rfl | later
      next => exact Nat.le_refl _
      next =>
        apply List.IsPrefix.length_le
        apply Text.prefix_of_size_le there (of_decide_eq_true begins)
        rw [Text.size_toList, Text.size_toList]
        exact descending.2.1.1 other later

theorem nameLexer_reads (calls : Calls β) (input : env.input = .chars w) (nonempty : name ≠ "")
    (begins : name.toList <+: w.rest s.offset) :
    ∃ t, ((nameLexer name).eval calls).run env s =
        ⟨.ok ⟨s.offset, Text.size name.toList, .reserved name⟩, t⟩ ∧
      t.cursor = ⟨s.offset + Text.size name.toList, s.steps + 1⟩ := by
  obtain ⟨rest, same⟩ := begins
  have here : w.rest? s.offset = some (name.toList ++ rest) := by
    cases place : w.rest? s.offset with
    | none =>
      rw [Window.rest, place] at same
      simp [nonempty] at same
    | some text =>
      rw [Window.rest, place] at same
      exact congrArg some same.symm
  have reads (p : Pattern) (l : String)
      (matched : p.run (name.toList ++ rest) = some (Text.size name.toList)) :=
    (Action.Scans.pattern input p l).lex_reads input here matched
      (show TokenReader.value (.reserved name) w.source s.offset _ = _ from rfl)
  unfold nameLexer
  split
  case h_1 c single =>
    refine reads (.char c) (Scanner.spell c) ?_
    simp [single, Pattern.run, Matcher.charWhere]
  case h_2 =>
    refine reads (.text name.toList) name ?_
    simp [Pattern.run, Matcher.text]

/-- The lexer of operators reads the longest of the names that are there, in one step, and fails in
place where none is. -/
theorem lexer_reads_longest (names : List String) (calls : Calls β) (w : Window) (origin : String)
    (positions : PositionMap) (n : Nat) (s : State β) :
    let text := w.rest s.offset
    let o := (ofList names).lexer.eval calls ⟨.chars w, origin, positions⟩ n s
    ((∃ l, o.reply = .ok l) ↔ ∃ name ∈ names, name ≠ "" ∧ name.toList <+: text) ∧
      ((∃ name, LongestName names text name ∧
          o.reply = .ok ⟨s.offset, Text.size name.toList, .reserved name⟩ ∧
          o.state.cursor = ⟨s.offset + Text.size name.toList, s.steps + 1⟩) ∨
        o.reply = .error .fail ∧ o.state.cursor = s.cursor) := by
  intro text o
  let env : Env := ⟨.chars w, origin, positions⟩
  have input : env.input = .chars w := rfl
  let branch (name : String) : Action β .lexeme := (nameLexer name).eval calls
  have whole : o = Action.sumFrom env n s.cursor ((ofList names).names.map branch) s :=
    congrFun (congrFun (congrFun (eval_lexer calls _) env) n) s
  rcases first_or_none names text with ⟨before, name, after, order, absent, longest⟩ | absent
  case inl =>
    have reads : ∀ u : State β, u.cursor = s.cursor →
        ∃ t, (branch name).run env u = ⟨.ok ⟨s.offset, Text.size name.toList, .reserved name⟩, t⟩ ∧
          t.cursor = ⟨s.offset + Text.size name.toList, s.steps + 1⟩ := by
      intro u same
      have place : u.offset = s.offset := congrArg Cursor.offset same
      have step : u.steps = s.steps := congrArg Cursor.steps same
      rw [← place, ← step]
      exact nameLexer_reads calls input longest.some (place ▸ longest.begins)
    obtain ⟨t, ran, cursor⟩ := Action.sumFrom_reads n (after.map branch) rfl
      (nameLexers_miss calls input absent) reads
    have found : o = ⟨.ok ⟨s.offset, Text.size name.toList, .reserved name⟩, t⟩ := by
      rw [whole, order, List.map_append, List.map_cons, ran]
    rw [found]
    exact ⟨⟨fun _ => ⟨name, longest.listed, longest.some, longest.begins⟩, fun _ => ⟨_, rfl⟩⟩,
      .inl ⟨name, longest, rfl, cursor⟩⟩
  case inr =>
    obtain ⟨u, same, past⟩ := Action.sumFrom_pass n [] rfl
      (nameLexers_miss calls input absent)
    have fails : o = ⟨.error .fail, u⟩ := by
      rw [List.append_nil] at past
      rw [whole, past]
      rfl
    rw [fails]
    refine ⟨⟨?_, ?_⟩, .inr ⟨rfl, same⟩⟩
    next =>
      rintro ⟨l, read⟩
      cases read
    next =>
      rintro ⟨name, listed, some, begins⟩
      exact absurd begins (absent name (mem_ofList.2 ⟨listed, some⟩))

end Operators

end Descent
