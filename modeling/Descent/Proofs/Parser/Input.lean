import Descent.Proofs.Parser.State
import Descent.Proofs.Pattern.Boundary

set_option autoImplicit false

namespace Descent

namespace Window

theorem rest?_append {w : Window} {n : Nat} {p rest : List Char}
    (here : w.rest? n = some (p ++ rest)) : w.rest? (n + Text.size p) = some rest := by
  rw [Window.rest?_eq_slice?, Text.slice?_eq_bind] at here ⊢
  obtain ⟨s, taken, dropped⟩ := Option.bind_eq_some_iff.1 here
  obtain ⟨q, rfl, rfl⟩ := Text.drop?_eq_some_iff.1 dropped
  rw [taken, Option.bind_some, ← List.append_assoc, ← Text.size_append]
  exact Text.drop?_size_append (q ++ p) rest

theorem rest_of_rest? {w : Window} {n : Nat} {r : List Char} (here : w.rest? n = some r) :
    w.rest n = r := by
  rw [rest, here, Option.getD_some]

theorem bind_rest? {m : Matcher} (nothing : m [] = none) (w : Window) (n : Nat) :
    (w.rest? n).bind m = m (w.rest n) := by
  rw [rest]
  cases w.rest? n with
  | none => exact nothing.symm
  | some r => rfl

theorem size_rest? {w : Window} {n : Nat} {rest : List Char}
    (here : w.rest? n = some rest) : n + Text.size rest = w.stop := by
  rw [Window.rest?_eq_slice?, Text.slice?_eq_bind] at here
  obtain ⟨s, taken, dropped⟩ := Option.bind_eq_some_iff.1 here
  obtain ⟨q, rfl, rfl⟩ := Text.drop?_eq_some_iff.1 dropped
  obtain ⟨r, -, length⟩ := Text.exists_of_take? taken
  rw [length, Text.size_append]

theorem slice?_of_rest? {w : Window} {k : Nat} {p q : List Char}
    (here : w.rest? k = some (p ++ q)) :
    Text.slice? w.source k (k + Text.size p) = some p := by
  rw [rest?_eq_slice?, Text.slice?_eq_bind] at here
  obtain ⟨s, taken, dropped⟩ := Option.bind_eq_some_iff.1 here
  obtain ⟨a, rfl, rfl⟩ := Text.drop?_eq_some_iff.1 dropped
  obtain ⟨r, text, -⟩ := Text.exists_of_take? taken
  rw [Text.slice?, if_pos (Nat.le_add_right _ _), Nat.add_sub_cancel_left, text, List.append_assoc,
    Text.drop?_size_append, Option.bind_some, List.append_assoc, Text.take?_size_append]

end Window

def Lexeme.placeAt (ls : List Lexeme) (stop k : Nat) : Nat := (ls[k]?.map (·.index)).getD stop

namespace Env

def Within (env : Env) (k : Nat) : Prop :=
  match env.input with
  | .chars w => k ≤ w.stop ∧ Text.IsBoundary w.source k
  | .tokens t => k ≤ t.lexemes.size

def Marks (env : Env) (first i : Nat) : Prop := ∃ k, first ≤ k ∧ env.Within k ∧ env.index k = i

variable {env : Env} {w : Window} {k : Nat}

theorem Within.le_stop (within : env.Within k) : k ≤ env.stop := by
  unfold Within at within
  unfold stop
  cases input : env.input with
  | chars w =>
    simp only [input] at within ⊢
    exact within.1
  | tokens run =>
    simp only [input] at within ⊢
    exact within

theorem within_chars (input : env.input = .chars w) :
    env.Within k ↔ k ≤ w.stop ∧ Text.IsBoundary w.source k := by
  simp only [Within, input]

theorem index_chars (input : env.input = .chars w) : env.index k = k := by
  simp only [index, input]

theorem input_of_window (window : env.window k = .ok w) : env.input = .chars w := by
  unfold Env.window at window
  split at window
  · cases window
    assumption
  · cases window

theorem within_after {s : List Char} {n : Nat} (input : env.input = .chars w)
    (found : w.rest? k = some s) (boundary : Text.IsBoundary s n) : env.Within (k + n) := by
  rw [Window.rest?_eq_slice?, Text.slice?_eq_bind] at found
  obtain ⟨p, taken, dropped⟩ := Option.bind_eq_some_iff.1 found
  obtain ⟨r, text, stop⟩ := Text.exists_of_take? taken
  have further := boundary.after dropped
  rw [within_chars input, stop, text]
  exact ⟨further.le_size, further.extend⟩

theorem rest_of_char? {c : Char} (found : env.char? k = .ok (some c)) :
    ∃ w following, env.input = .chars w ∧ w.rest? k = some (c :: following) := by
  cases window : env.window k with
  | error e => simp [char?, rest, window, Except.map] at found
  | ok w =>
    have first : (w.rest k).head? = some c := by
      simpa [char?, rest, window, Except.map] using found
    obtain ⟨following, text⟩ := List.head?_eq_some_iff.1 first
    refine ⟨w, following, input_of_window window, ?_⟩
    unfold Window.rest at text
    cases whole : w.rest? k with
    | none => simp [whole] at text
    | some u => simpa [whole] using text

theorem within_next_of_char? {β : Type} {s : State β} {c : Char}
    (found : env.char? s.offset = .ok (some c)) : env.Within (s.next env).offset := by
  obtain ⟨w, following, input, remains⟩ := rest_of_char? found
  have offset : (s.next env).offset = s.offset + c.utf8Size := by
    simp only [State.next, input, Window.rest, remains]
    rfl
  rw [offset]
  exact within_after input remains (Text.IsBoundary.zero.cons c)

theorem within_skip_of_run {p : Pattern} {n : Nat} (window : env.window k = .ok w)
    (matched : (w.rest? k).bind p.run = some n) : env.Within (k + n) := by
  obtain ⟨text, remains, matched⟩ := Option.bind_eq_some_iff.1 matched
  exact within_after (input_of_window window) remains (p.run_fits text n matched)

theorem lt_size_of_lexeme? {l : Lexeme} (found : env.lexeme? k = .ok (some l)) :
    ∃ run, env.input = .tokens run ∧ k < run.lexemes.size := by
  cases input : env.input with
  | chars w => simp [lexeme?, input] at found
  | tokens run =>
    have here : run.lexemes[k]? = some l := by simpa [lexeme?, input] using found
    obtain ⟨inside, -⟩ := Array.getElem?_eq_some_iff.1 here
    exact ⟨run, rfl, inside⟩

theorem within_next_of_lexeme? {β : Type} {s : State β} {l : Lexeme}
    (found : env.lexeme? s.offset = .ok (some l)) : env.Within (s.next env).offset := by
  obtain ⟨run, input, lt⟩ := lt_size_of_lexeme? found
  simp only [Within, State.next, input]
  exact lt

theorem index_min_size (run : TokenRun) (input : env.input = .tokens run)
    (k : Nat) : env.index (min k run.lexemes.size) = env.index k := by
  by_cases le : k ≤ run.lexemes.size
  · rw [Nat.min_eq_left le]
  · have size : min k run.lexemes.size = run.lexemes.size := by omega
    have past : run.lexemes[k]? = none := by
      rw [Array.getElem?_eq_none_iff]
      omega
    simp [index, input, size, past]

theorem index_ofTokens_eq (source : List Char) (ls : List Lexeme) (stop : Nat) (eofTitle : String)
    (render : Token → String) (origin : String) (positions : PositionMap) (k : Nat) :
    (ofTokens ⟨source, ls.toArray, stop, eofTitle, render⟩ origin positions).index k =
      Lexeme.placeAt ls stop k := by
  simp only [ofTokens, index, Lexeme.placeAt, List.getElem?_toArray]
  cases ls[k]? <;> rfl

theorem index_ofTokens (run : TokenRun) (origin : String) (positions : PositionMap) (k : Nat) :
    (ofTokens run origin positions).index k = run.endIndex ∨
      ∃ l ∈ run.lexemes.toList, (ofTokens run origin positions).index k = l.index := by
  cases found : run.lexemes[k]? with
  | none =>
    left
    simp only [ofTokens, index, found]
  | some l =>
    right
    refine ⟨l, Array.mem_toList_iff.2 (Array.mem_of_getElem? found), ?_⟩
    simp only [ofTokens, index, found]

end Env

end Descent
