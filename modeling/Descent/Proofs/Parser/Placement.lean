import Descent.Proofs.Diagnostic.Merge
import Descent.Proofs.Parser.Evolution

set_option autoImplicit false

namespace Descent

variable {β : Type} {a b : Ty}

namespace Env

def Admits (env : Env) (P : Nat → Prop) (first : Nat) : Prop :=
  ∀ k, first ≤ k → env.Within k → P (env.index k)

theorem Admits.later {env : Env} {P : Nat → Prop} {first later : Nat} (admits : env.Admits P first)
    (le : first ≤ later) : env.Admits P later :=
  fun k ge within => admits k (Nat.le_trans le ge) within

theorem admits_marks (env : Env) (first : Nat) : env.Admits (env.Marks first) first :=
  fun k ge within => ⟨k, ge, within, rfl⟩

theorem admits_true (env : Env) (first : Nat) : env.Admits (fun _ => True) first :=
  fun _ _ _ => trivial

end Env

namespace State

def Truthful (env : Env) (s : State β) : Prop :=
  ∀ (slot : Nat) (d : Diagnostic), s.seen.bind (·[slot]?) = some d → d.index = env.index slot

structure Placed (env : Env) (P : Nat → Prop) (s : State β) : Prop where
  within : env.Within s.offset
  allowed : ∀ d, s.error = some d → P d.index
  truthful : s.Truthful env

structure Leads (env : Env) (P : Nat → Prop) (s t : State β) : Prop where
  placed : t.Placed env P
  offset : s.offset ≤ t.offset
  step : s.steps ≤ t.steps

variable {env : Env} {P : Nat → Prop} {s t u : State β}

theorem truthful_of_blank (blank : s.seen = env.blankSeen) : s.Truthful env := by
  intro slot d seen
  unfold Env.blankSeen at blank
  cases input : env.input <;> simp [blank, input] at seen

theorem Truthful.encountered (truthful : s.Truthful env) :
    (s.encountered env).1.index = env.index s.offset ∧ (s.encountered env).2.Truthful env := by
  unfold State.encountered
  cases input : env.input with
  | chars w => exact ⟨rfl, truthful⟩
  | tokens run =>
    have same := Env.index_min_size run input s.offset
    dsimp only
    split
    case h_1 d seen => exact ⟨(truthful _ d seen).trans same, truthful⟩
    case h_2 =>
      refine ⟨rfl, fun slot d seen => ?_⟩
      cases memory : s.seen with
      | none => simp [memory] at seen
      | some cells =>
        simp only [memory, Option.map_some, Option.bind_some, Std.TreeMap.getElem?_insert] at seen
        split at seen
        case isTrue here =>
          cases seen
          rw [← Nat.compare_eq_eq.1 here, same]
          rfl
        case isFalse => exact truthful slot d (by simpa [memory] using seen)

theorem Truthful.reject (truthful : s.Truthful env) (why : Rejection) :
    (s.reject env why).Truthful env ∧
      ∀ d, (s.reject env why).error = some d → d.index = env.index s.offset := by
  obtain ⟨index, later⟩ := truthful.encountered
  cases why with
  | silent => exact ⟨truthful, fun d left => by cases left⟩
  | expecting l | unexpected l | message text =>
    refine ⟨truthful, fun d left => ?_⟩
    cases left
    rfl
  | encountered =>
    refine ⟨later, fun d left => ?_⟩
    cases left
    exact index
  | instead l =>
    refine ⟨later, fun d left => ?_⟩
    cases left
    exact (Diagnostic.index_relabel _ l _).trans index

namespace Placed

theorem anywhere (placed : s.Placed env P) : s.Placed env fun _ => True :=
  ⟨placed.within, fun _ _ => trivial, placed.truthful⟩

theorem restore (placed : t.Placed env P) {c : Cursor} (within : env.Within c.offset) :
    (t.restore c).Placed env P :=
  ⟨within, placed.allowed, placed.truthful⟩

theorem setStep (placed : t.Placed env P) (n : Nat) : (t.setStep n).Placed env P :=
  ⟨placed.within, placed.allowed, placed.truthful⟩

theorem setError (placed : t.Placed env P) {e : Option Diagnostic}
    (allowed : ∀ d, e = some d → P d.index) : (t.setError e).Placed env P :=
  ⟨placed.within, allowed, placed.truthful⟩

theorem note (placed : t.Placed env P) (notes : List (Note β)) : (t.note notes).Placed env P :=
  ⟨placed.within, placed.allowed, placed.truthful⟩

theorem complain (placed : t.Placed env P) {make : Nat → Diagnostic}
    (allowed : ∀ id, P (make id).index) : (t.complain make).Placed env P := by
  refine ⟨placed.within, fun d left => ?_, placed.truthful⟩
  cases left
  exact allowed _

end Placed

end State

namespace State

variable {env : Env} {P : Nat → Prop} {s t u : State β}

theorem Placed.mergeError (placed : t.Placed env P) {e : Option Diagnostic}
    (allowed : ∀ d, e = some d → P d.index) : (t.mergeError e).Placed env P :=
  ⟨placed.within, State.index_mergeError t allowed placed.allowed, placed.truthful⟩

namespace Leads

theorem refl (placed : s.Placed env P) : s.Leads env P s :=
  ⟨placed, Nat.le_refl _, Nat.le_refl _⟩

theorem trans (first : s.Leads env P t) (second : t.Leads env P u) : s.Leads env P u :=
  ⟨second.placed, Nat.le_trans first.offset second.offset, Nat.le_trans first.step second.step⟩

theorem admits (leads : s.Leads env P t) (admits : env.Admits P s.offset) :
    env.Admits P t.offset :=
  admits.later leads.offset

theorem still (leads : s.Leads env P t) (placed : u.Placed env P) (same : u.cursor = t.cursor) :
    s.Leads env P u := by
  have offset : u.offset = t.offset := congrArg Cursor.offset same
  have step : u.steps = t.steps := congrArg Cursor.steps same
  exact ⟨placed, by rw [offset]; exact leads.offset, by rw [step]; exact leads.step⟩

theorem setStep (leads : s.Leads env P t) {n : Nat} (le : s.steps ≤ n) :
    s.Leads env P (t.setStep n) :=
  ⟨leads.placed.setStep n, leads.offset, le⟩

theorem reject (leads : s.Leads env P t) (admits : env.Admits P s.offset) (why : Rejection) :
    s.Leads env P (t.reject env why) := by
  have here : P (env.index t.offset) := admits t.offset leads.offset leads.placed.within
  have offset : (t.reject env why).offset = t.offset :=
    congrArg Cursor.offset (reject_cursor env t why)
  obtain ⟨truthful, index⟩ := leads.placed.truthful.reject why
  refine leads.still ⟨?_, fun d left => ?_, truthful⟩ (reject_cursor env t why)
  · rw [offset]
    exact leads.placed.within
  · rw [index d left]
    exact here

theorem relabelError (leads : s.Leads env P t) (admits : env.Admits P s.offset) (l : String) :
    s.Leads env P (Action.relabelError l env t) := by
  unfold Action.relabelError
  split
  case h_1 d left =>
    refine leads.still (leads.placed.complain fun id => ?_) rfl
    rw [Diagnostic.index_relabel]
    exact leads.placed.allowed d left
  case h_2 => exact leads.reject admits _

end Leads

end State

def Env.Hosts (env : Env) (s : State β) (inner : Env) (first : Nat) : Prop :=
  s.Placed env (fun _ => True) →
    inner.Within first ∧ ∀ k, first ≤ k → inner.Within k →
      s.offset ≤ inner.index k ∧ env.Within (inner.index k) ∧
        env.index (inner.index k) = inner.index k

namespace State

variable {env inner : Env} {P : Nat → Prop} {s t u : State β}

theorem Leads.leave (leads : s.Leads env P t) {first : Nat} (nested : u.Placed inner P)
    (ge : first ≤ u.offset)
    (places : ∀ k, first ≤ k → inner.Within k →
      s.offset ≤ inner.index k ∧ env.Within (inner.index k) ∧
        env.index (inner.index k) = inner.index k)
    (r : Reply β a) : s.Leads env P (Action.leave inner t u r).state := by
  have after : s.Leads env P { t with nextId := u.nextId, journal := u.journal } :=
    leads.still ⟨leads.placed.within, leads.placed.allowed, leads.placed.truthful⟩ rfl
  rcases r with (_ | _ | _ | _ | _) | v
  case ok => exact after.setStep (Nat.le_trans leads.step (Nat.le_add_right _ _))
  case error.fail =>
    obtain ⟨ge, within, -⟩ := places u.offset ge nested.within
    exact ⟨⟨within, nested.allowed, leads.placed.truthful⟩, ge, leads.step⟩
  all_goals exact after

theorem Evolves.leads (evolves : s.Evolves Env.Hosts env t) (admits : env.Admits P s.offset)
    (placed : s.Placed env P) : s.Leads env P t := by
  -- The cursor goes back only to where it has been, so no step leads out of the input.
  induction evolves with
  | refl => exact .refl placed
  | trans first second ih ih' =>
    have leads := ih admits placed
    exact leads.trans (ih' (leads.admits admits) leads.placed)
  | next within =>
    exact ⟨⟨within, placed.allowed, placed.truthful⟩, Nat.le_add_right _ _, Nat.le_succ _⟩
  | @skip _ s n within =>
    refine ⟨⟨within, placed.allowed, placed.truthful⟩, Nat.le_add_right _ _, ?_⟩
    simp only [State.skip, State.steps]
    split
    · exact Nat.le_refl _
    · exact Nat.le_succ _
  | reject why => exact (Leads.refl placed).reject admits why
  | relabel l => exact (Leads.refl placed).relabelError admits l
  | note notes => exact (Leads.refl placed).still (placed.note notes) rfl
  | setStep evolves le ih => exact (ih admits placed).setStep le
  | restore evolves been ih ih' =>
    have leads := ih admits placed
    have past := ih' admits placed
    exact ⟨leads.placed.restore past.placed.within, past.offset, past.step⟩
  | regain evolves earlier ih =>
    have leads := ih admits placed
    have allowed := fun d left => placed.allowed d (earlier d left)
    exact leads.still (leads.placed.setError allowed) rfl
  | merge evolves earlier ih =>
    have leads := ih admits placed
    have allowed := fun d left => placed.allowed d (earlier d left)
    exact leads.still (leads.placed.mergeError allowed) rfl
  | @inside env inner first s t u _ r hosts evolves nested ih ih' =>
    obtain ⟨start, places⟩ := hosts placed.anywhere
    have within : inner.Admits P (t.enter inner first).offset := by
      intro k ge here
      obtain ⟨later, outside, same⟩ := places k ge here
      rw [← same]
      exact admits _ later outside
    have enters : (t.enter inner first).Placed inner P := by
      refine ⟨start, fun d left => ?_, truthful_of_blank rfl⟩
      cases left
    have leadsInside := ih' within enters
    exact (ih admits placed).leave leadsInside.placed leadsInside.offset places r

end State

namespace Action

variable {x : Action β a} {env : Env} {P : Nat → Prop} {s : State β}

theorem Regular.leads (regular : x.Regular Env.Hosts) (admits : env.Admits P s.offset)
    (placed : s.Placed env P) : ∃ r t, x.run env s = ⟨r, t⟩ ∧ s.Leads env P t :=
  ⟨_, _, rfl, (regular env defaultLookahead s).leads admits placed⟩

/-- All tokens that the action succeeds with lie in the window, from the place where it began. -/
def LexesInPlace (x : Action β (.list .lexeme)) : Prop :=
  ∀ (env : Env) (w : Window) (s t : State β) (lexemes : List Lexeme),
    env.input = .chars w → s.Placed env (fun _ => True) → x.run env s = ⟨.ok lexemes, t⟩ →
      ∀ l ∈ lexemes, s.offset ≤ l.index ∧ env.Within l.index

theorem feeds_of_lexesInPlace (lexer : Action β (.list .lexeme)) (inPlace : lexer.LexesInPlace) :
    lexer.Feeds Env.Hosts := by
  intro env w s t lexemes eofTitle render origin run input evolves placed
  have leads := evolves.leads (env.admits_true s.offset) placed
  have lexed := inPlace env w s t lexemes input placed run
  refine ⟨Nat.zero_le _, fun k _ _ => ?_⟩
  refine and_assoc.1 ⟨?_, Env.index_chars input⟩
  rcases Env.index_ofTokens _ origin env.positions k with index | ⟨l, member, index⟩
  · rw [index, Env.index_chars input]
    exact ⟨leads.offset, leads.placed.within⟩
  · rw [index]
    exact lexed l member

end Action

end Descent
