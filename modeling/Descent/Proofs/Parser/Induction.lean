import Descent.Proofs.Parser.Plan

set_option autoImplicit false

namespace Descent

variable {β : Type} {a b : Ty}

namespace Plan

variable {depth : Nat} {env : Env} {Q : {b : Ty} → Application β b → Prop}

def Performs (Q : {b : Ty} → Application β b → Prop) : Plan β a → Prop
  | done _ => True
  | perform x next => Q x ∧ ∀ o, (next o).Performs @Q

theorem Performs.operands {plan : Plan β a} (performs : plan.Performs @Q) (rules : Rules β) :
    ∀ y ∈ plan.operands rules, Q y.2 := by
  induction plan with
  | done o => simp [Plan.operands]
  | perform x next ih =>
    simp only [Plan.operands, List.forall_mem_cons]
    exact ⟨performs.1, ih _ (performs.2 _)⟩

theorem performs_last {x : Application β a} (here : Q x) : (perform x done).Performs @Q :=
  ⟨here, fun _ => trivial⟩

theorem performs_once {x : Application β b} {use : Action β b → Outcome β a} (here : Q x) :
    (once x use).Performs @Q :=
  ⟨here, fun _ => trivial⟩

theorem performs_andThen {o : Outcome β b} {f : b.Value β → State β → Plan β a}
    (next : ∀ v t, (f v t).Performs @Q) : (andThen o f).Performs @Q := by
  rcases o with ⟨_ | v, t⟩
  · trivial
  · exact next v t

theorem sumFrom_performs (n : Nat) (start : Cursor) {ps : List (Parser β a)}
    (parts : ∀ p ∈ ps, ∀ s, Q (part depth env p s)) (s : State β) :
    (sumFrom depth env n start ps s).Performs @Q := by
  induction ps generalizing s with
  | nil => trivial
  | cons p ps ih =>
    rw [List.forall_mem_cons] at parts
    refine ⟨parts.1 s, fun o => ?_⟩
    rcases o with ⟨(_ | _ | _ | _ | _) | v, t⟩
    case error.fail =>
      dsimp only [orElse]
      split
      · trivial
      · exact ih parts.2 _
    all_goals trivial

theorem favoredRest_performs (preference : Preference) (start : Cursor) {ps : List (Parser β a)}
    (parts : ∀ p ∈ ps, ∀ s, Q (part depth env p s)) (v : a.Value β) (best : Cursor)
    (s : State β) : (favoredRest depth env preference start ps v best s).Performs @Q := by
  induction ps generalizing v best s with
  | nil => trivial
  | cons p ps ih =>
    rw [List.forall_mem_cons] at parts
    refine ⟨parts.1 _, fun o => ?_⟩
    rcases o with ⟨(_ | _ | _ | _ | _) | w, t⟩
    case error.fail => exact ih parts.2 v best t
    case ok =>
      dsimp only
      split
      · exact ih parts.2 w t.cursor t
      · exact ih parts.2 v best t
    all_goals trivial

theorem favoredFrom_performs (preference : Preference) (start : Cursor) {ps : List (Parser β a)}
    (parts : ∀ p ∈ ps, ∀ s, Q (part depth env p s)) (error : Option Diagnostic) (s : State β) :
    (favoredFrom depth env preference start ps error s).Performs @Q := by
  induction ps generalizing error s with
  | nil => trivial
  | cons p ps ih =>
    rw [List.forall_mem_cons] at parts
    refine ⟨parts.1 s, fun o => ?_⟩
    rcases o with ⟨(_ | _ | _ | _ | _) | v, t⟩
    case error.fail => exact ih parts.2 _ _
    case ok => exact favoredRest_performs preference start parts.2 v t.cursor t
    all_goals trivial

theorem loopFrom_performs {p : Parser β b} (part : ∀ s, Q (part depth env p s)) (min : Nat)
    (max : Option Nat) (finish : List (b.Value β) → a.Value β) (fuel count : Nat)
    (values : List (b.Value β)) (s : State β) :
    (loopFrom depth env p min max finish fuel count values s).Performs @Q := by
  induction fuel generalizing count values s with
  | zero => trivial
  | succ fuel ih =>
    simp only [loopFrom]
    split
    · trivial
    · refine ⟨part s, fun o => ?_⟩
      rcases o with ⟨(_ | _ | _ | _ | _) | v, t⟩
      case error.fail =>
        dsimp only
        split <;> trivial
      case ok =>
        dsimp only
        split
        · trivial
        · exact ih _ _ t
      all_goals trivial

theorem nestedFrom_performs {opening closing body : Parser β .unit}
    (opens : ∀ s, Q (part depth env opening s)) (closes : ∀ s, Q (part depth env closing s))
    (fills : ∀ s, Q (part depth env body s)) (fuel level : Nat) (s : State β) :
    (nestedFrom depth env opening closing body fuel level s).Performs @Q := by
  induction fuel generalizing level s with
  | zero => cases level <;> trivial
  | succ fuel ih =>
    cases level with
    | zero => trivial
    | succ level =>
      refine ⟨closes s, fun o => ?_⟩
      rcases o with ⟨e | v, t⟩ <;> dsimp only
      case ok =>
        split
        · exact ih level t
        · trivial
      case error =>
        split
        · refine ⟨opens t, fun o => ?_⟩
          rcases o with ⟨e | v, u⟩ <;> dsimp only
          case ok =>
            split
            · exact ih (level + 2) u
            · trivial
          case error =>
            split
            · refine ⟨fills u, fun o => performs_andThen fun _ v => ?_⟩
              split
              · exact ih (level + 1) v
              · trivial
            · trivial
        · trivial

end Plan

namespace Parser

def HasPart : {a : Ty} → Parser β a → (b : Ty) × Parser β b → Prop
  | _, .matched p, q | _, .atomize p, q | _, .lookahead _ p, q | _, .stepBy _ p, q
  | _, .peek p, q | _, .label _ p, q | _, .isConsumed _ p, q | _, .notConsumed _ p, q
  | _, .test _ _ p, q | _, .tryMap _ p, q | _, .loop p _ _ _, q | _, .lex p _, q
  | _, .traced p _, q | _, .named _ p, q => q = ⟨_, p⟩
  | _, .lazy make, q => q = ⟨_, make ()⟩
  | _, .bind p f, q => q = ⟨_, p⟩ ∨ ∃ v, q = ⟨_, f v⟩
  | _, .ifElse p yes no, q => q = ⟨_, p⟩ ∨ (∃ v, q = ⟨_, yes v⟩) ∨ q = ⟨_, no⟩
  | _, .tryCatch p _ resume, q => q = ⟨_, p⟩ ∨ ∃ v key, q = ⟨_, resume v key⟩
  | _, .sum _ ps, q | _, .favored _ _ ps, q => ∃ i, q = ⟨_, ps i⟩
  | _, .nested opening closing body, q => q = ⟨_, opening⟩ ∨ q = ⟨_, closing⟩ ∨ q = ⟨_, body⟩
  | _, .parseTokens lexer p _ _ _, q => q = ⟨_, lexer⟩ ∨ q = ⟨_, p⟩
  | _, .scanChars outer p _, q => q = ⟨_, outer⟩ ∨ q = ⟨_, p⟩
  | _, _, _ => False

def module? : Parser β a → Option String
  | parseTokens _ _ _ _ origin | scanChars _ _ origin => some origin
  | _ => none

theorem induct {P : {b : Ty} → Parser β b → Prop}
    (step : ∀ {b : Ty} (p : Parser β b), (∀ q, p.HasPart q → P q.2) → P p)
    {a : Ty} (p : Parser β a) : P p := by
  induction p with
  | ret | reject | raise | abort | fault | getIndex | eof | token | char | pattern | rule =>
    exact step _ fun q none => none.elim
  | matched p ih | atomize p ih | lookahead m p ih | stepBy m p ih | peek p ih | label l p ih
  | isConsumed message p ih | notConsumed message p ih | test check l p ih | tryMap f p ih
  | loop p min max finish ih | lex p reader ih | traced p hook ih | named name p ih =>
    refine step _ ?_
    rintro _ rfl
    exact ih
  | lazy make ih =>
    refine step _ ?_
    rintro _ rfl
    exact ih ()
  | sum k ps ih | favored preference k ps ih =>
    refine step _ ?_
    rintro _ ⟨i, rfl⟩
    exact ih i
  | bind p f ih ih' =>
    refine step _ ?_
    rintro _ (rfl | ⟨v, rfl⟩)
    · exact ih
    · exact ih' v
  | tryCatch p handler resume ih ih' =>
    refine step _ ?_
    rintro _ (rfl | ⟨v, key, rfl⟩)
    · exact ih
    · exact ih' v key
  | parseTokens lexer p eofTitle render origin ih ih' | scanChars outer p origin ih ih' =>
    refine step _ ?_
    rintro _ (rfl | rfl)
    · exact ih
    · exact ih'
  | ifElse p yes no ih ih' ih'' =>
    refine step _ ?_
    rintro _ (rfl | ⟨v, rfl⟩ | rfl)
    · exact ih
    · exact ih' v
    · exact ih''
  | nested opening closing body ih ih' ih'' =>
    refine step _ ?_
    rintro _ (rfl | rfl | rfl)
    · exact ih
    · exact ih'
    · exact ih''

open Plan in
theorem plan_performs (rules : Rules β) {depth : Nat} {env : Env} {n : Nat} {s : State β}
    {Q : {b : Ty} → Application β b → Prop} {p : Parser β a}
    (parts : ∀ q, p.HasPart q → ∀ inner n s, (p.module? = none → inner = env) →
      Q ⟨q.2, depth, inner, n, s⟩)
    (called : ∀ d < depth, ∀ (q : Parser β .base) n s, Q ⟨q, d, env, n, s⟩) :
    (p.plan rules depth env n s).Performs @Q := by
  cases p with
  | ret | reject | raise | abort | fault | getIndex | eof | token | char | pattern => trivial
  | matched | atomize | lookahead | stepBy | peek | label | isConsumed | notConsumed | test
  | tryMap | lex | traced | lazy | named =>
    rw [plan]
    exact performs_once (parts _ rfl env _ _ fun _ => rfl)
  | bind p f =>
    refine ⟨parts _ (.inl rfl) env _ _ fun _ => rfl, fun o => performs_andThen fun v t => ?_⟩
    exact performs_last (parts _ (.inr ⟨v, rfl⟩) env _ _ fun _ => rfl)
  | ifElse p yes no =>
    refine ⟨parts _ (.inl rfl) env _ _ fun _ => rfl, fun o => ?_⟩
    rcases o with ⟨(_ | _ | _ | _ | _) | v, t⟩ <;> dsimp only
    case error.fail =>
      split
      · trivial
      · exact performs_once (parts _ (.inr (.inr rfl)) env _ _ fun _ => rfl)
    case ok => exact performs_last (parts _ (.inr (.inl ⟨v, rfl⟩)) env _ _ fun _ => rfl)
    all_goals trivial
  | tryCatch p handler resume =>
    refine ⟨parts _ (.inl rfl) env _ _ fun _ => rfl, fun o => ?_⟩
    rcases o with ⟨(_ | sig | _ | _ | _) | v, t⟩ <;> dsimp only
    case error.signal =>
      split
      · exact performs_last (parts _ (.inr ⟨_, _, rfl⟩) env _ _ fun _ => rfl)
      · trivial
    all_goals trivial
  | sum k branches =>
    refine sumFrom_performs n s.cursor (fun p member t => ?_) s
    obtain ⟨i, rfl⟩ := List.mem_ofFn.1 member
    exact parts _ ⟨i, rfl⟩ env _ _ fun _ => rfl
  | favored preference k branches =>
    refine favoredFrom_performs preference s.cursor (fun p member t => ?_) none s
    obtain ⟨i, rfl⟩ := List.mem_ofFn.1 member
    exact parts _ ⟨i, rfl⟩ env _ _ fun _ => rfl
  | loop p min max finish =>
    exact loopFrom_performs (fun t => parts _ rfl env _ t fun _ => rfl) min max finish _ 0 [] s
  | nested opening closing body =>
    refine ⟨parts _ (.inl rfl) env _ _ fun _ => rfl, fun o => performs_andThen fun _ t => ?_⟩
    exact nestedFrom_performs (fun u => parts _ (.inl rfl) env _ u fun _ => rfl)
      (fun u => parts _ (.inr (.inl rfl)) env _ u fun _ => rfl)
      (fun u => parts _ (.inr (.inr rfl)) env _ u fun _ => rfl) _ 1 t
  -- The lexer reads the outer input, and only what comes after it has a context of its own.
  | parseTokens lexer p eofTitle render origin =>
    refine ⟨parts _ (.inl rfl) env _ _ fun _ => rfl, fun o => performs_andThen fun lexemes t => ?_⟩
    split
    · trivial
    · exact performs_once (parts _ (.inr rfl) _ _ _ (by rintro ⟨⟩))
  | scanChars outer p origin =>
    refine ⟨parts _ (.inl rfl) env _ _ fun _ => rfl, fun o => performs_andThen fun _ t => ?_⟩
    split
    · trivial
    · exact performs_once (parts _ (.inr rfl) _ _ _ (by rintro ⟨⟩))
  | rule name =>
    cases depth with
    | zero => trivial
    | succ depth =>
      simp only [plan]
      split
      · exact performs_last (called depth (Nat.lt_succ_self depth) _ _ _)
      · trivial

end Parser

theorem Application.induct (rules : Rules β) {P : {b : Ty} → Application β b → Prop}
    (step : ∀ {b : Ty} (x : Application β b),
      (∀ y ∈ (x.plan rules).operands rules, P y.2) → P x)
    {a : Ty} (x : Application β a) : P x := by
  suffices all : ∀ depth, ∀ {a : Ty} (p : Parser β a) env n s, P ⟨p, depth, env, n, s⟩ from
    all x.depth x.parser x.env x.lookahead x.state
  intro depth
  -- A call has a smaller depth, whatever its parser is; all else that is applied is a part of the
  -- parser at the same depth.
  induction depth using Nat.strongRecOn with
  | ind depth calls =>
    intro a p
    refine Parser.induct (P := fun p => ∀ env n s, P ⟨p, depth, env, n, s⟩)
      (fun p parts env n s => step _ fun y operand => ?_) p
    have performs := Parser.plan_performs (n := n) (s := s) rules (Q := @P)
      (fun q part inner n s _ => parts q part inner n s) fun d less q n s => calls d less q env n s
    exact performs.operands rules y operand

end Descent
