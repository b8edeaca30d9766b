import Descent.Proofs.Diagnostic.Merge
import Descent.Proofs.Parser.Evolution

set_option autoImplicit false

namespace Descent

variable {β : Type} {a b : Ty}

abbrev Book := Nat → Diagnostic

def Book.Files (book : Book) (n : Nat) (d : Diagnostic) : Prop := d.id < n ∧ book d.id = d

def Book.Agrees (book' : Book) (n : Nat) (book : Book) : Prop := ∀ i < n, book' i = book i

namespace Book

variable {book book' book'' : Book} {m n : Nat} {d e : Diagnostic}

theorem Files.later (files : book.Files m d) (agrees : book'.Agrees m book) (le : m ≤ n) :
    book'.Files n d := by
  obtain ⟨lt, filed⟩ := files
  exact ⟨Nat.lt_of_lt_of_le lt le, by rw [agrees d.id lt, filed]⟩

theorem Files.same (files : book.Files n d) (files' : book.Files n e) (same : d.id = e.id) :
    d = e := by
  rw [← files.2, ← files'.2, same]

def enter (book : Book) (n : Nat) (d : Diagnostic) : Book := fun i => if i = n then d else book i

theorem enter_agrees : (book.enter n d).Agrees n book := by
  intro i lt
  simp only [enter]
  rw [if_neg (Nat.ne_of_lt lt)]

theorem enter_files (numbered : d.id = n) : (book.enter n d).Files (n + 1) d := by
  refine ⟨by omega, ?_⟩
  simp only [enter]
  rw [if_pos numbered]

end Book

namespace State

structure Filed (book : Book) (s : State β) : Prop where
  error : ∀ d, s.error = some d → book.Files s.nextId d
  seen : ∀ (slot : Nat) (d : Diagnostic),
    s.seen.bind (·[slot]?) = some d → book.Files s.nextId d

def Follows (book : Book) (n : Nat) (t : State β) : Prop :=
  ∃ book', book'.Agrees n book ∧ n ≤ t.nextId ∧ t.Filed book'

variable {book : Book} {n : Nat} {env : Env} {s t u : State β}

theorem filed_of_blank (error : s.error = none) (seen : s.seen = env.blankSeen) :
    s.Filed book := by
  refine ⟨fun d left => by simp [error] at left, fun slot d remembered => ?_⟩
  unfold Env.blankSeen at seen
  cases input : env.input <;> simp [seen, input] at remembered

namespace Follows

theorem refl (filed : s.Filed book) : s.Follows book s.nextId :=
  ⟨book, fun _ _ => rfl, Nat.le_refl _, filed⟩

theorem trans (first : t.Follows book n)
    (second : ∀ book', t.Filed book' → u.Follows book' t.nextId) : u.Follows book n := by
  obtain ⟨book₁, extends₁, le₁, filed₁⟩ := first
  obtain ⟨book₂, extends₂, le₂, filed₂⟩ := second book₁ filed₁
  refine ⟨book₂, fun i lt => ?_, Nat.le_trans le₁ le₂, filed₂⟩
  rw [extends₂ i (Nat.lt_of_lt_of_le lt le₁), extends₁ i lt]

theorem still (follows : t.Follows book n) (error : u.error = t.error) (seen : u.seen = t.seen)
    (next : u.nextId = t.nextId) : u.Follows book n := by
  obtain ⟨book', agrees, le, filed⟩ := follows
  refine ⟨book', agrees, by rw [next]; exact le, ⟨?_, ?_⟩⟩
  · rw [error, next]
    exact filed.error
  · rw [seen, next]
    exact filed.seen

theorem restore (follows : t.Follows book n) (c : Cursor) : (t.restore c).Follows book n :=
  follows.still rfl rfl rfl

theorem setError (follows : t.Follows book n) {e : Option Diagnostic}
    (earlier : ∀ d, e = some d → book.Files n d) : (t.setError e).Follows book n := by
  obtain ⟨book', agrees, le, filed⟩ := follows
  exact ⟨book', agrees, le, fun d left => (earlier d left).later agrees le, filed.seen⟩

theorem fresh (follows : t.Follows book n) (m : Diagnostic) (next : u.nextId = t.nextId + 1)
    (error : ∀ d, u.error = some d →
      book.Files n d ∨ t.error = some d ∨ d = m ∧ m.id = t.nextId)
    (seen : ∀ (slot : Nat) (d : Diagnostic), u.seen.bind (·[slot]?) = some d →
      t.seen.bind (·[slot]?) = some d ∨ d = m ∧ m.id = t.nextId) : u.Follows book n := by
  obtain ⟨book', agrees, le, filed⟩ := follows
  have entered := book'.enter_agrees (n := t.nextId) (d := m)
  have kept : ∀ d, book'.Files t.nextId d → (book'.enter t.nextId m).Files u.nextId d :=
    fun d files => files.later entered (by omega)
  have given : ∀ d, d = m ∧ m.id = t.nextId → (book'.enter t.nextId m).Files u.nextId d := by
    rintro d ⟨rfl, numbered⟩
    rw [next]
    exact Book.enter_files numbered
  refine ⟨book'.enter t.nextId m, fun i lt => ?_, by omega, fun d left => ?_,
    fun slot d left => ?_⟩
  · rw [entered i (Nat.lt_of_lt_of_le lt le), agrees i lt]
  · rcases error d left with earlier | same | new
    · exact kept d (earlier.later agrees le)
    · exact kept d (filed.error d same)
    · exact given d new
  · rcases seen slot d left with same | new
    · exact kept d (filed.seen slot d same)
    · exact given d new

theorem complain (follows : t.Follows book n) {make : Nat → Diagnostic}
    (numbered : ∀ id, (make id).id = id) : (t.complain make).Follows book n := by
  refine follows.fresh (make t.nextId) rfl (fun d made => ?_) fun _ _ remembered => .inl remembered
  cases made
  exact .inr (.inr ⟨rfl, numbered _⟩)

theorem mergeError (follows : t.Follows book n) {e : Option Diagnostic}
    (earlier : ∀ d, e = some d → book.Files n d) : (t.mergeError e).Follows book n := by
  refine follows.fresh ((t.mergeError e).error.getD (.message t.nextId 0 "")) rfl
    (fun d merged => ?_) fun _ _ remembered => .inl remembered
  rw [merged, Option.getD_some]
  rcases State.mergeError_cases t merged with only | only | ⟨d₁, d₂, first, second, rfl⟩
  · exact .inl (earlier d only)
  · exact .inr (.inl only)
  · rcases Diagnostic.merge_cases t.nextId d₁ d₂ with same | same | numbered
    · rw [same]
      exact .inl (earlier d₁ first)
    · rw [same]
      exact .inr (.inl second)
    · exact .inr (.inr ⟨rfl, numbered⟩)

theorem encountered (follows : t.Follows book n) :
    (t.encountered env).2.Follows book n ∧
      ((t.encountered env).2.setError (some (t.encountered env).1)).Follows book n := by
  rcases encountered_cases env t with ⟨same, slot, remembered⟩ | ⟨numbered, next, seen⟩
  · rw [same]
    refine ⟨follows, ?_⟩
    obtain ⟨book', agrees, le, filed⟩ := follows
    refine ⟨book', agrees, le, fun d left => ?_, filed.seen⟩
    cases left
    exact filed.seen slot _ remembered
  · have memory : ∀ (slot : Nat) (d : Diagnostic),
        (t.encountered env).2.seen.bind (·[slot]?) = some d →
          t.seen.bind (·[slot]?) = some d ∨
            d = (t.encountered env).1 ∧ (t.encountered env).1.id = t.nextId := by
      intro slot d left
      rcases seen with same | ⟨place, inserted⟩
      · rw [same] at left
        exact .inl left
      · rw [inserted] at left
        cases cells : t.seen with
        | none => simp [cells] at left
        | some cells =>
          simp only [cells, Option.map_some, Option.bind_some,
            Std.TreeMap.getElem?_insert] at left
          split at left
          · cases left
            exact .inr ⟨rfl, numbered⟩
          · exact .inl left
    refine ⟨follows.fresh _ next (fun d left => ?_) memory,
      follows.fresh _ next (fun d left => ?_) memory⟩
    · rw [encountered_error] at left
      exact .inr (.inl left)
    · cases left
      exact .inr (.inr ⟨rfl, numbered⟩)

theorem reject (follows : t.Follows book n) (why : Rejection) :
    (t.reject env why).Follows book n := by
  cases why <;> simp only [State.reject]
  case silent => exact follows.setError (by simp)
  case expecting l => exact follows.complain fun _ => rfl
  case unexpected l => exact follows.complain fun _ => rfl
  case message text => exact follows.complain fun _ => rfl
  case encountered => exact (follows.encountered).2
  case instead l => exact (follows.encountered).1.complain fun id => by simp

theorem relabelError (follows : t.Follows book n) (l : String) :
    (Action.relabelError l env t).Follows book n := by
  unfold Action.relabelError
  split
  · exact follows.complain fun id => by simp
  · exact follows.reject _

end Follows

end State

namespace State

variable {nests : Env → State β → Env → Nat → Prop} {env : Env} {book : Book} {s t : State β}

theorem Evolves.follows (evolves : s.Evolves nests env t) (filed : s.Filed book) :
    t.Follows book s.nextId := by
  -- Each step gives out new numbers at most, so the book grows along the run.
  induction evolves generalizing book with
  | refl => exact .refl filed
  | trans first second ih ih' => exact (ih filed).trans fun book' filed' => ih' filed'
  | next within => exact (Follows.refl filed).still rfl rfl rfl
  | skip n within => exact (Follows.refl filed).still rfl rfl rfl
  | reject why => exact (Follows.refl filed).reject why
  | relabel l => exact (Follows.refl filed).relabelError l
  | note notes => exact (Follows.refl filed).still rfl rfl rfl
  | setStep evolves le ih => exact (ih filed).still rfl rfl rfl
  | restore evolves been ih ih' => exact (ih filed).still rfl rfl rfl
  | regain evolves earlier ih =>
    exact (ih filed).setError fun d left => filed.error d (earlier d left)
  | merge evolves earlier ih =>
    exact (ih filed).mergeError fun d left => filed.error d (earlier d left)
  | @inside env inner first s t u _ r hosts evolves nested ih ih' =>
    refine (ih filed).trans fun book₁ filed₁ => ?_
    have enters : (t.enter inner first).Filed book₁ := filed_of_blank rfl rfl
    obtain ⟨book₂, agrees, le, filed₂⟩ := ih' enters
    have slot : ∀ d, t.error = some d → book₂.Files u.nextId d :=
      fun d left => (filed₁.error d left).later agrees le
    have memory : ∀ (k : Nat) (d : Diagnostic),
        t.seen.bind (·[k]?) = some d → book₂.Files u.nextId d :=
      fun k d left => (filed₁.seen k d left).later agrees le
    rcases r with (_ | _ | _ | _ | _) | v
    case error.fail => exact ⟨book₂, agrees, le, filed₂.error, memory⟩
    all_goals exact ⟨book₂, agrees, le, slot, memory⟩

end State

def State.Numbered (s : State β) : Prop := ∃ book : Book, s.Filed book

theorem State.numbered_stateAt (env : Env) (c : Cursor) : (env.stateAt c : State β).Numbered :=
  ⟨fun _ => .message 0 0 "", filed_of_blank rfl rfl⟩

theorem Parser.eval_evolves (rules : Rules β) (depth : Nat) (p : Parser β a) :
    (p.eval (rules.calls depth)).Regular fun _ _ _ _ => True := by
  have rescans : Action.Rescans (β := β) fun _ _ _ _ => True := fun _ _ _ _ _ _ _ => trivial
  have feeds : ∀ x : Action β (.list .lexeme), x.Feeds fun _ _ _ _ => True :=
    fun _ _ _ _ _ _ _ _ _ _ _ _ => trivial
  have regularRules : rules.Lexers (Action.Feeds fun _ _ _ _ => True) :=
    fun _ _ q _ => q.lexers_of_all feeds _
  exact p.eval_regular rescans (Rules.calls_regular rescans regularRules depth)
    (p.lexers_of_all feeds _)

theorem Parser.eval_numbered (rules : Rules β) (depth : Nat) (p : Parser β a) (env : Env)
    (lookahead : Nat) {s : State β} (numbered : s.Numbered) :
    (p.eval (rules.calls depth) env lookahead s).state.Numbered := by
  obtain ⟨book, filed⟩ := numbered
  obtain ⟨book', -, -, filed'⟩ := (p.eval_evolves rules depth env lookahead s).follows filed
  exact ⟨book', filed'⟩

end Descent
