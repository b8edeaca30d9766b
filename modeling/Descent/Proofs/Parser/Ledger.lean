import Descent.Proofs.Parser.Numbering
import Mathlib.Data.Option.Basic

/-!
A context that forgets what was encountered makes the same diagnostic again, under a number of its
own. Two numbers stand for the same one only if that diagnostic is remembered; it says nothing but
what was encountered, and of two such a merge keeps the first.
-/

set_option autoImplicit false

namespace Descent

variable {β : Type}

namespace Diagnostic

def unnumbered : Diagnostic → Diagnostic
  | leaf _ d => leaf 0 d
  | merged _ n r d e => merged 0 n r d.unnumbered e.unnumbered
  | relabelled _ n r l d => relabelled 0 n r l d.unnumbered

variable {d d' e e' : Diagnostic}

@[simp] theorem index_unnumbered (d : Diagnostic) : d.unnumbered.index = d.index := by
  cases d <;> rfl

@[simp] theorem rank_unnumbered (d : Diagnostic) : d.unnumbered.rank = d.rank := by
  cases d <;> rfl

@[simp] theorem isBare_unnumbered (d : Diagnostic) : d.unnumbered.isBare = d.isBare := by
  cases d <;> rfl

@[simp] theorem detail_unnumbered (d : Diagnostic) : d.unnumbered.detail = d.detail := by
  induction d with
  | leaf => rfl
  | merged _ _ _ _ _ ih ih' => simp only [unnumbered, detail, ih, ih']
  | relabelled _ _ _ _ _ ih => simp only [unnumbered, detail, ih]

@[simp] theorem unnumbered_relabel (i : Nat) (l : String) (d : Diagnostic) :
    (d.relabel i l).unnumbered = d.unnumbered.relabel 0 l := by
  cases d <;> simp [relabel, unnumbered, index, rank]

def Same (d d' : Diagnostic) : Prop := d.unnumbered = d'.unnumbered

namespace Same

theorem index (same : d.Same d') : d.index = d'.index := by
  simpa using congrArg Diagnostic.index same

theorem rank (same : d.Same d') : d.rank = d'.rank := by
  simpa using congrArg Diagnostic.rank same

theorem isBare (same : d.Same d') : d.isBare = d'.isBare := by
  simpa using congrArg Diagnostic.isBare same

theorem detail (same : d.Same d') : d.detail = d'.detail := by
  simpa using congrArg Diagnostic.detail same

theorem relabel (same : d.Same d') (i i' : Nat) (l : String) :
    (d.relabel i l).Same (d'.relabel i' l) := by
  simpa [Same] using congrArg (Diagnostic.relabel 0 l) same

theorem merged (first : d.Same d') (second : e.Same e') (i i' : Nat) :
    (Diagnostic.merged i d.index d.rank d e).Same
      (Diagnostic.merged i' d'.index d'.rank d' e') := by
  simp only [Same, unnumbered, first.index, first.rank, Diagnostic.merged.injEq]
  exact ⟨trivial, trivial, trivial, first, second⟩

end Same

end Diagnostic

/-- What the numbers of the run that remembers stand for, and which of them each number of the other
run stands for. -/
structure Ledger where
  book : Book
  number : Nat → Nat

namespace Ledger

structure Sound (w : Ledger) (n n' : Nat) : Prop where
  given : ∀ i < n', w.number i < n
  apart : ∀ i < n', ∀ j < n', w.number i = w.number j →
    i = j ∨ (w.book (w.number i)).isBare = true

structure Pairs (w : Ledger) (n n' : Nat) (d d' : Diagnostic) : Prop where
  files : w.book.Files n d
  lt : d'.id < n'
  number : w.number d'.id = d.id
  same : d.Same d'

structure Extends (w' w : Ledger) (n n' : Nat) : Prop where
  book : w'.book.Agrees n w.book
  number : ∀ i < n', w'.number i = w.number i

def add (w : Ledger) (n n' : Nat) (d : Diagnostic) : Ledger :=
  ⟨w.book.enter n d, fun i => if i = n' then n else w.number i⟩

def again (w : Ledger) (n' i : Nat) : Ledger :=
  ⟨w.book, fun j => if j = n' then i else w.number j⟩

variable {w w' w'' : Ledger} {n n' m m' i i' : Nat} {d d' e e' : Diagnostic}

namespace Extends

theorem refl : w.Extends w n n' := ⟨fun _ _ => rfl, fun _ _ => rfl⟩

theorem trans (first : w'.Extends w n n') (second : w''.Extends w' m m') (le : n ≤ m)
    (le' : n' ≤ m') : w''.Extends w n n' where
  book i lt := (second.book i (Nat.lt_of_lt_of_le lt le)).trans (first.book i lt)
  number i lt := (second.number i (Nat.lt_of_lt_of_le lt le')).trans (first.number i lt)

theorem add : (w.add n n' d).Extends w n n' where
  book := Book.enter_agrees
  number _ lt := if_neg (Nat.ne_of_lt lt)

theorem again : (w.again n' i).Extends w n n' where
  book _ _ := rfl
  number _ lt := if_neg (Nat.ne_of_lt lt)

end Extends

theorem Pairs.later (pairs : w.Pairs n n' d d') (agrees : w'.Extends w n n') (le : n ≤ m)
    (le' : n' ≤ m') : w'.Pairs m m' d d' where
  files := pairs.files.later agrees.book le
  lt := Nat.lt_of_lt_of_le pairs.lt le'
  number := (agrees.number _ pairs.lt).trans pairs.number
  same := pairs.same

theorem pairs_add (id : d.id = n) (id' : d'.id = n') (same : d.Same d') :
    (w.add n n' d).Pairs (n + 1) (n' + 1) d d' where
  files := Book.enter_files id
  lt := by omega
  number := by simp only [add, id, id', if_true]
  same := same

theorem pairs_again (files : w.book.Files n d) (id' : d'.id = n') (same : d.Same d') :
    (w.again n' d.id).Pairs n (n' + 1) d d' where
  files := files
  lt := by omega
  number := if_pos id'
  same := same

namespace Sound

theorem add (sound : w.Sound n n') (d : Diagnostic) : (w.add n n' d).Sound (n + 1) (n' + 1) := by
  -- The new number is not one that has been given in either run.
  have kept : ∀ i < n', (w.add n n' d).number i = w.number i := Extends.add.number
  have new : (w.add n n' d).number n' = n := if_pos rfl
  constructor
  · intro i lt
    obtain lt | rfl := Nat.lt_succ_iff_lt_or_eq.1 lt
    · rw [kept i lt]
      exact Nat.lt_succ_of_lt (sound.given i lt)
    · rw [new]
      exact Nat.lt_succ_self n
  · intro i lt j lt' same
    obtain lt | rfl := Nat.lt_succ_iff_lt_or_eq.1 lt <;>
      obtain lt' | rfl := Nat.lt_succ_iff_lt_or_eq.1 lt'
    · rw [kept i lt, kept j lt'] at same
      rw [kept i lt, (Extends.add (d := d)).book _ (sound.given i lt)]
      exact sound.apart i lt j lt' same
    · rw [kept i lt, new] at same
      exact absurd same (Nat.ne_of_lt (sound.given i lt))
    · rw [kept j lt', new] at same
      exact absurd same.symm (Nat.ne_of_lt (sound.given j lt'))
    · exact .inl rfl

theorem again (sound : w.Sound n n') (lt : i < n) (bare : (w.book i).isBare = true) :
    (w.again n' i).Sound n (n' + 1) := by
  have kept : ∀ j < n', (w.again n' i).number j = w.number j :=
    (Extends.again (n := n)).number
  have new : (w.again n' i).number n' = i := if_pos rfl
  constructor
  · intro j lt'
    obtain lt' | rfl := Nat.lt_succ_iff_lt_or_eq.1 lt'
    · rw [kept j lt']
      exact sound.given j lt'
    · rw [new]
      exact lt
  · intro j ltj k ltk same
    obtain ltj | rfl := Nat.lt_succ_iff_lt_or_eq.1 ltj
    · obtain ltk | rfl := Nat.lt_succ_iff_lt_or_eq.1 ltk
      · rw [kept j ltj, kept k ltk] at same
        rw [kept j ltj]
        exact sound.apart j ltj k ltk same
      · rw [same, new]
        exact .inr bare
    · rw [new]
      exact .inr bare

theorem merge (sound : w.Sound n n') (first : w.Pairs n n' d d') (second : w.Pairs n n' e e')
    (i i' : Nat) :
    (Diagnostic.merge i d e = d ∧ Diagnostic.merge i' d' e' = d') ∨
      (Diagnostic.merge i d e = e ∧ Diagnostic.merge i' d' e' = e') ∨
      (Diagnostic.merge i d e).id = i ∧ (Diagnostic.merge i' d' e').id = i' ∧
        (Diagnostic.merge i d e).Same (Diagnostic.merge i' d' e') := by
  by_cases same : d.id = e.id
  · -- One diagnostic, which the run that forgets has perhaps made twice.
    obtain rfl := first.files.same second.files same
    left
    refine ⟨if_pos rfl, ?_⟩
    have numbers : w.number d'.id = w.number e'.id := first.number.trans second.number.symm
    obtain same' | bare := sound.apart _ first.lt _ second.lt numbers
    · exact if_pos same'
    · rw [first.number, first.files.2] at bare
      have bare' : d'.isBare = true ∧ e'.isBare = true :=
        ⟨first.same.isBare ▸ bare, second.same.isBare ▸ bare⟩
      have level : d'.index = e'.index := first.same.index.symm.trans second.same.index
      have equal : d'.rank = e'.rank := first.same.rank.symm.trans second.same.rank
      simp [Diagnostic.merge, level, equal, bare']
  · have same' : d'.id ≠ e'.id := by
      intro same'
      exact same (by rw [← first.number, ← second.number, same'])
    simp only [Diagnostic.merge, if_neg same, if_neg same', ← first.same.index, ← first.same.rank,
      ← first.same.isBare, ← second.same.index, ← second.same.rank, ← second.same.isBare]
    by_cases level : d.index = e.index
    · rw [if_neg (not_not.2 level), if_neg (not_not.2 level)]
      by_cases equal : d.rank = e.rank
      · rw [if_neg (not_not.2 equal), if_neg (not_not.2 equal)]
        split
        · exact .inl ⟨rfl, rfl⟩
        · refine .inr (.inr ⟨rfl, rfl, ?_⟩)
          have merged := first.same.merged second.same i i'
          rwa [← first.same.index, ← first.same.rank] at merged
      · rw [if_pos equal, if_pos equal]
        split
        · exact .inl ⟨rfl, rfl⟩
        · exact .inr (.inl ⟨rfl, rfl⟩)
    · rw [if_pos level, if_pos level]
      split
      · exact .inl ⟨rfl, rfl⟩
      · exact .inr (.inl ⟨rfl, rfl⟩)

end Sound

end Ledger

namespace Env

def shown (env : Env) (k : Nat) : String :=
  match env.input with
  | .chars _ => endMarker
  | .tokens t => (t.lexemes[k]?.map fun l => t.render l.token).getD t.eofTitle

variable {env : Env} {tokens : TokenRun} (input : env.input = .tokens tokens) (k : Nat)

include input

theorem index_min_stop : env.index (min k env.stop) = env.index k := by
  rw [Env.stop, input]
  exact index_min_size tokens input k

theorem shown_min_stop : env.shown (min k env.stop) = env.shown k := by
  simp only [shown, stop, input]
  by_cases inside : k ≤ tokens.lexemes.size
  · rw [Nat.min_eq_left inside]
  · have past : tokens.lexemes.size ≤ k := by omega
    rw [Nat.min_eq_right past, Array.getElem?_eq_none past,
      Array.getElem?_eq_none (Nat.le_refl tokens.lexemes.size)]

end Env

namespace State

def Recalls (env : Env) (s : State β) : Prop :=
  ∀ (slot : Nat) (d : Diagnostic), s.seen.bind (·[slot]?) = some d →
    slot ≤ env.stop ∧ d = .encountered d.id (env.index slot) (env.shown slot)

/-- States of the two runs at one time; the first one remembers. -/
structure Twins (env : Env) (w : Ledger) (s s' : State β) : Prop where
  cursor : s.cursor = s'.cursor
  journal : s.journal = s'.journal
  error : Option.Rel (w.Pairs s.nextId s'.nextId) s.error s'.error
  sound : w.Sound s.nextId s'.nextId
  filed : ∀ (slot : Nat) (d : Diagnostic),
    s.seen.bind (·[slot]?) = some d → w.book.Files s.nextId d
  recalls : s.Recalls env
  forgets : s'.seen = none

def Follow (env : Env) (w : Ledger) (n n' : Nat) (s s' : State β) : Prop :=
  ∃ w' : Ledger, w'.Extends w n n' ∧ n ≤ s.nextId ∧ n' ≤ s'.nextId ∧ s.Twins env w' s'

end State

variable {env : Env} {tokens : TokenRun} {w w' : Ledger} {n n' m m' : Nat}

theorem Ledger.errors_later {e e' : Option Diagnostic} (errors : Option.Rel (w.Pairs n n') e e')
    (agrees : w'.Extends w n n') (le : n ≤ m) (le' : n' ≤ m') :
    Option.Rel (w'.Pairs m m') e e' := by
  cases errors with
  | none => exact .none
  | some pairs => exact .some (pairs.later agrees le le')

namespace State

variable {s s' t t' u u' : State β} {e e' : Option Diagnostic}

theorem Twins.offset (twins : s.Twins env w s') : s.offset = s'.offset :=
  congrArg Cursor.offset twins.cursor

theorem Twins.restore (twins : s.Twins env w s') (c : Cursor) :
    (s.restore c).Twins env w (s'.restore c) :=
  { twins with cursor := rfl }

theorem Twins.setError (twins : s.Twins env w s')
    (errors : Option.Rel (w.Pairs s.nextId s'.nextId) e e') :
    (s.setError e).Twins env w (s'.setError e') :=
  { twins with error := errors }

theorem Twins.note (twins : s.Twins env w s') (notes : List (Note β)) :
    (s.note notes).Twins env w (s'.note notes) :=
  { twins with journal := congrArg (notes.reverse ++ ·) twins.journal }

namespace Follow

theorem refl (twins : s.Twins env w s') : s.Follow env w s.nextId s'.nextId s' :=
  ⟨w, .refl, Nat.le_refl _, Nat.le_refl _, twins⟩

theorem trans (first : t.Follow env w n n' t')
    (second : ∀ w', t.Twins env w' t' → u.Follow env w' t.nextId t'.nextId u') :
    u.Follow env w n n' u' := by
  obtain ⟨w₁, agrees₁, le₁, le₁', twins₁⟩ := first
  obtain ⟨w₂, agrees₂, le₂, le₂', twins₂⟩ := second w₁ twins₁
  exact ⟨w₂, agrees₁.trans agrees₂ le₁ le₁', Nat.le_trans le₁ le₂, Nat.le_trans le₁' le₂', twins₂⟩

theorem still (follow : t.Follow env w n n' t')
    (alike : ∀ w', t.Twins env w' t' → u.Twins env w' u') (next : u.nextId = t.nextId)
    (next' : u'.nextId = t'.nextId) : u.Follow env w n n' u' := by
  obtain ⟨w', agrees, le, le', twins⟩ := follow
  exact ⟨w', agrees, next ▸ le, next' ▸ le', alike w' twins⟩

theorem cursor (follow : t.Follow env w n n' t') : t.cursor = t'.cursor := by
  obtain ⟨w', _, _, _, twins⟩ := follow
  exact twins.cursor

theorem offset (follow : t.Follow env w n n' t') : t.offset = t'.offset :=
  congrArg Cursor.offset follow.cursor

theorem restore (follow : t.Follow env w n n' t') {c c' : Cursor} (same : c = c') :
    (t.restore c).Follow env w n n' (t'.restore c') := by
  subst same
  exact follow.still (fun _ twins => twins.restore c) rfl rfl

theorem setStep (follow : t.Follow env w n n' t') (k : Nat) :
    (t.setStep k).Follow env w n n' (t'.setStep k) :=
  follow.restore (congrArg (fun c : Cursor => Cursor.mk c.offset k) follow.cursor)

theorem note (follow : t.Follow env w n n' t') (notes : List (Note β)) :
    (t.note notes).Follow env w n n' (t'.note notes) :=
  follow.still (fun _ twins => twins.note notes) rfl rfl

theorem setError (follow : t.Follow env w n n' t') (earlier : Option.Rel (w.Pairs n n') e e') :
    (t.setError e).Follow env w n n' (t'.setError e') := by
  obtain ⟨w', agrees, le, le', twins⟩ := follow
  exact ⟨w', agrees, le, le', twins.setError (Ledger.errors_later earlier agrees le le')⟩

end Follow

theorem Twins.add (twins : s.Twins env w s') (d : Diagnostic) (cursor : t.cursor = t'.cursor)
    (journal : t.journal = t'.journal) (next : t.nextId = s.nextId + 1)
    (next' : t'.nextId = s'.nextId + 1)
    (error : Option.Rel ((w.add s.nextId s'.nextId d).Pairs (s.nextId + 1) (s'.nextId + 1))
      t.error t'.error)
    (seen : ∀ (slot : Nat) (c : Diagnostic), t.seen.bind (·[slot]?) = some c →
      s.seen.bind (·[slot]?) = some c ∨
        c = d ∧ d.id = s.nextId ∧ slot ≤ env.stop ∧
          d = .encountered d.id (env.index slot) (env.shown slot))
    (forgets : t'.seen = none) : t.Twins env (w.add s.nextId s'.nextId d) t' := by
  refine ⟨cursor, journal, ?_, ?_, ?_, ?_, forgets⟩
  · rwa [next, next']
  · rw [next, next']
    exact twins.sound.add d
  · intro slot c left
    obtain old | ⟨rfl, id, -⟩ := seen slot c left
    · exact (twins.filed slot c old).later Book.enter_agrees (by omega)
    · rw [next]
      exact Book.enter_files id
  · intro slot c left
    obtain old | ⟨rfl, -, place⟩ := seen slot c left
    · exact twins.recalls slot c old
    · exact place

theorem Follow.of_add {d : Diagnostic} (twins : t.Twins env (w.add n n' d) t')
    (next : t.nextId = n + 1) (next' : t'.nextId = n' + 1) : t.Follow env w n n' t' :=
  ⟨_, .add, next ▸ Nat.le_succ n, next' ▸ Nat.le_succ n', twins⟩

theorem Twins.complain (twins : s.Twins env w s') {make make' : Nat → Diagnostic}
    (id : ∀ i, (make i).id = i) (id' : ∀ i, (make' i).id = i)
    (same : ∀ i i', (make i).Same (make' i')) :
    (s.complain make).Follow env w s.nextId s'.nextId (s'.complain make') := by
  refine .of_add (d := make s.nextId) ?_ rfl rfl
  exact twins.add _ twins.cursor twins.journal rfl rfl
    (.some (Ledger.pairs_add (id _) (id' _) (same _ _))) (fun _ _ => .inl) twins.forgets

theorem Twins.mergeError (twins : s.Twins env w s')
    (earlier : Option.Rel (w.Pairs s.nextId s'.nextId) e e') :
    (s.mergeError e).Follow env w s.nextId s'.nextId (s'.mergeError e') := by
  let d := (s.mergeError e).error.getD (.message s.nextId 0 "")
  refine .of_add (d := d) (twins.add d twins.cursor twins.journal rfl rfl ?_ (fun _ _ => .inl)
    twins.forgets) rfl rfl
  have kept {c c' : Diagnostic} (pairs : w.Pairs s.nextId s'.nextId c c') :
      (w.add s.nextId s'.nextId d).Pairs (s.nextId + 1) (s'.nextId + 1) c c' :=
    pairs.later .add (Nat.le_succ _) (Nat.le_succ _)
  have later := twins.error
  simp only [State.mergeError]
  generalize one : s.error = o at later ⊢
  generalize s'.error = o' at later ⊢
  cases earlier with
  | none =>
    cases later with
    | none => exact .none
    | some second => exact .some (kept second)
  | @some c c' first =>
    cases later with
    | none => exact .some (kept first)
    | @some f f' second =>
      have merged : d = Diagnostic.merge s.nextId c f := by
        simp only [d, State.mergeError, one, Diagnostic.merge?, Option.getD_some]
      refine .some ?_
      obtain ⟨same, same'⟩ | ⟨same, same'⟩ | ⟨new, new', same⟩ :=
        twins.sound.merge first second s.nextId s'.nextId
      · rw [same, same']
        exact kept first
      · rw [same, same']
        exact kept second
      · rw [merged]
        exact Ledger.pairs_add new new' same

def slot (env : Env) (s : State β) : Nat := min s.offset env.stop

theorem encountered_again (input : env.input = .tokens tokens) {d : Diagnostic}
    (filled : s.seen.bind (·[s.slot env]?) = some d) : s.encountered env = (d, s) := by
  simp only [slot, Env.stop, input] at filled
  simp only [State.encountered, input, filled]

theorem encountered_anew (input : env.input = .tokens tokens)
    (empty : s.seen.bind (·[s.slot env]?) = none) :
    let d := Diagnostic.encountered s.nextId (env.index (s.slot env)) (env.shown (s.slot env))
    s.encountered env =
      (d, { s with nextId := s.nextId + 1, seen := s.seen.map (·.insert (s.slot env) d) }) := by
  rw [slot, Env.index_min_stop input]
  simp only [slot, Env.stop, input] at empty
  simp only [State.encountered, Env.stop, Env.shown, input, empty]
  cases tokens.lexemes[min s.offset tokens.lexemes.size]? <;> rfl

theorem Twins.encountered (twins : s.Twins env w s') (input : env.input = .tokens tokens) :
    ∃ w' : Ledger, w'.Extends w s.nextId s'.nextId ∧ s.nextId ≤ (s.encountered env).2.nextId ∧
      s'.nextId ≤ (s'.encountered env).2.nextId ∧
      (s.encountered env).2.Twins env w' (s'.encountered env).2 ∧
      w'.Pairs (s.encountered env).2.nextId (s'.encountered env).2.nextId (s.encountered env).1
        (s'.encountered env).1 := by
  have here : s'.slot env = s.slot env := by rw [slot, slot, twins.offset]
  have empty' : s'.seen.bind (·[s'.slot env]?) = none := by rw [twins.forgets, Option.bind_none]
  rw [encountered_anew input empty', here]
  generalize made : Diagnostic.encountered s'.nextId _ _ = d'
  have id' : d'.id = s'.nextId := made ▸ rfl
  cases cell : s.seen.bind (·[s.slot env]?) with
  | some d =>
    rw [encountered_again input cell]
    obtain ⟨-, place⟩ := twins.recalls _ d cell
    have files := twins.filed _ d cell
    have same : d.Same d' := by
      rw [place, ← made]
      rfl
    have bare : (w.book d.id).isBare = true := by
      rw [files.2, place]
      rfl
    refine ⟨w.again s'.nextId d.id, .again, Nat.le_refl _, Nat.le_succ _, ?_,
      Ledger.pairs_again files id' same⟩
    exact { twins with
      error := Ledger.errors_later twins.error .again (Nat.le_refl _) (Nat.le_succ _)
      sound := twins.sound.again files.1 bare
      forgets := by simp only [twins.forgets, Option.map_none] }
  | none =>
    rw [encountered_anew input cell]
    generalize new : Diagnostic.encountered s.nextId _ _ = d
    have id : d.id = s.nextId := new ▸ rfl
    have same : d.Same d' := by
      rw [← new, ← made]
      rfl
    have pairs : (w.add s.nextId s'.nextId d).Pairs (s.nextId + 1) (s'.nextId + 1) d d' :=
      Ledger.pairs_add id id' same
    refine ⟨_, .add, Nat.le_succ _, Nat.le_succ _, ?_, pairs⟩
    have forgets : s'.seen.map (·.insert (s.slot env) d') = none := by
      rw [twins.forgets, Option.map_none]
    refine twins.add d twins.cursor twins.journal rfl rfl
      (Ledger.errors_later twins.error .add (Nat.le_succ _) (Nat.le_succ _)) ?_ forgets
    intro slot c left
    cases memory : s.seen with
    | none => simp [memory] at left
    | some cells =>
      simp only [memory, Option.map_some, Option.bind_some, Std.TreeMap.getElem?_insert] at left
      split at left
      case isTrue here =>
        cases left
        refine .inr ⟨rfl, id, ?_, ?_⟩
        · rw [← Nat.compare_eq_eq.1 here]
          exact Nat.min_le_right _ _
        · rw [← Nat.compare_eq_eq.1 here, id]
          exact new.symm
      case isFalse => exact .inl left

namespace Follow

variable (follow : t.Follow env w n n' t')

include follow

theorem mergeError (earlier : Option.Rel (w.Pairs n n') e e') :
    (t.mergeError e).Follow env w n n' (t'.mergeError e') := by
  obtain ⟨w', agrees, le, le', twins⟩ := follow
  obtain ⟨w₁, agrees₁, le₁, le₁', merged⟩ :=
    twins.mergeError (Ledger.errors_later earlier agrees le le')
  exact ⟨w₁, agrees.trans agrees₁ le le', Nat.le_trans le le₁, Nat.le_trans le' le₁', merged⟩

theorem next (input : env.input = .tokens tokens) :
    (t.next env).Follow env w n n' (t'.next env) := by
  have same : (t.next env).cursor = (t'.next env).cursor := by
    simp only [State.next, input, follow.cursor]
  exact follow.restore same

theorem reject (input : env.input = .tokens tokens) (why : Rejection) :
    (t.reject env why).Follow env w n n' (t'.reject env why) := by
  refine follow.trans fun w' twins => ?_
  have index := congrArg env.index twins.offset
  obtain ⟨w₁, agrees, le, le', met, pairs⟩ := twins.encountered input
  cases why <;> simp only [State.reject, index]
  case silent => exact (Follow.refl twins).setError .none
  case expecting l => exact twins.complain (fun _ => rfl) (fun _ => rfl) fun _ _ => rfl
  case unexpected l => exact twins.complain (fun _ => rfl) (fun _ => rfl) fun _ _ => rfl
  case message text => exact twins.complain (fun _ => rfl) (fun _ => rfl) fun _ _ => rfl
  case encountered => exact ⟨w₁, agrees, le, le', met.setError (.some pairs)⟩
  case instead l =>
    refine trans ⟨w₁, agrees, le, le', met⟩ fun _ later => ?_
    exact later.complain (fun _ => Diagnostic.id_relabel ..) (fun _ => Diagnostic.id_relabel ..)
      fun i i' => pairs.same.relabel i i' l

theorem relabelError (input : env.input = .tokens tokens) (l : String) :
    (Action.relabelError l env t).Follow env w n n' (Action.relabelError l env t') := by
  refine follow.trans fun w' twins => ?_
  have errors := twins.error
  unfold Action.relabelError
  generalize t.error = e at errors ⊢
  generalize t'.error = e' at errors ⊢
  cases errors with
  | none => exact (Follow.refl twins).reject input (.expecting l)
  | some pairs =>
    exact twins.complain (fun _ => Diagnostic.id_relabel ..) (fun _ => Diagnostic.id_relabel ..)
      fun i i' => pairs.same.relabel i i' l

end Follow

end State

end Descent
