import Descent.Parser.Hook
import Descent.Parser.Repetition
import Descent.Proofs.Parser.Lockstep
import Descent.Token.Terminal

set_option autoImplicit false

namespace Descent

variable {β : Type} {a b c : Ty} {L : Likeness} {called : String → Prop}

open Likeness

def Parser.Blind (L : Likeness) (called : String → Prop) (p : Parser β a) : Prop :=
  L.Parsers called p p

namespace Parser

variable {p : Parser β a} {q : Parser β b}

theorem blind_ret (free : a.tokenless = true) (v : a.Value β) :
    (ret v : Parser β a).Blind L called :=
  .ret ((values_iff (.inl free)).2 rfl)

theorem blind_bind (free : a.tokenless = true) {f : a.Value β → Parser β b}
    (blind : p.Blind L called) (next : ∀ v, (f v).Blind L called) :
    (p.bind f).Blind L called := by
  refine .bind blind fun {v v'} values => ?_
  rw [(values_iff (.inl free)).1 values]
  exact next v'

theorem blind_seqRight (blind : p.Blind L called) (blind' : q.Blind L called) :
    (seqRight p q).Blind L called := .bind blind fun _ => blind'

theorem blind_seqLeft (blind : p.Blind L called) (blind' : q.Blind L called) :
    (seqLeft p q).Blind L called := .bind blind fun values => .bind blind' fun _ => .ret values

theorem blind_between {opening : Parser β b} {closing : Parser β c}
    (opens : opening.Blind L called) (closes : closing.Blind L called)
    (blind : p.Blind L called) : (between opening closing p).Blind L called :=
  blind_seqRight opens (blind_seqLeft blind closes)

theorem blind_both (free : a.tokenless = true) (free' : b.tokenless = true)
    (free'' : c.tokenless = true) (f : a.Value β → b.Value β → c.Value β)
    (blind : p.Blind L called) (blind' : q.Blind L called) :
    (both f p q).Blind L called :=
  blind_bind free blind fun _ => blind_bind free' blind' fun _ => blind_ret free'' _

theorem blind_tryMap (free : a.tokenless = true) (free' : b.tokenless = true)
    (f : a.Value β → Except UserError (b.Value β))
    (unplaced : ∀ v e, f v = .error e → e.index = none)
    (blind : p.Blind L called) : (tryMap f p).Blind L called := by
  refine .tryMap (fun {v v'} values => ?_) blind
  rw [(values_iff (.inl free)).1 values]
  rcases result : f v' with ⟨message, index⟩ | w
  · obtain rfl : index = none := unplaced v' _ result
    exact .error message .none
  · exact .ok ((values_iff (.inl free')).2 rfl)

theorem Blind.branches (blind : p.Blind L called) : ∀ q ∈ p.branches, q.Blind L called := by
  unfold Parser.branches
  split
  · cases blind with
    | sum each =>
      intro q member
      obtain ⟨i, rfl⟩ := List.mem_ofFn.1 member
      exact each i
  · intro q member
    rwa [List.mem_singleton.1 member]

theorem blind_plus {ps : List (Parser β a)} (blind : ∀ p ∈ ps, p.Blind L called) :
    (plus ps).Blind L called := by
  refine .sum fun i => ?_
  obtain ⟨p, isPart, isBranch⟩ := List.mem_flatMap.1 (List.mem_toArray.1 (Array.getElem_mem i.2))
  exact (blind p isPart).branches _ isBranch

theorem blind_orElse {p q : Parser β a} (blind : p.Blind L called) (blind' : q.Blind L called) :
    (orElse p q).Blind L called :=
  blind_plus (by simp [blind, blind'])

theorem blind_optional (blind : p.Blind L called) : (optional p).Blind L called :=
  blind_orElse (.bind blind fun values => .ret (.some values)) (.ret .none)

theorem blind_loop (free : a.tokenless = true) (free' : b.tokenless = true) (min : Nat)
    (max : Option Nat) (finish : List (a.Value β) → b.Value β) (blind : p.Blind L called) :
    (loop p min max finish).Blind L called := by
  refine .loop min max blind fun {vs vs'} lists => ?_
  obtain rfl : vs = vs' := (values_iff (a := .list a) (.inl free)).1 lists
  exact (values_iff (.inl free')).2 rfl

theorem recoveries_endOfList {v v' : Option (a.Value β)} (key : Key)
    (values : Option.Rel (L.Values a) v v') :
    L.Recoveries a (endOfList v key).recovery (endOfList v' key).recovery := by
  cases values with
  | none => exact .propagate .none
  | some values =>
    unfold endOfList
    dsimp only
    split
    · exact .value values
    · exact .propagate (.some values)

theorem blind_sepEndBy {sep : Parser β c} (separates : sep.Blind L called)
    (blind : p.Blind L called) : (sepEndBy sep p).Blind L called := by
  have either : (orElse p (raise .listEnd)).Blind L called := blind_orElse blind (.raise _)
  have list : (listWith (b := .list a) (fun vs => vs) p
      (seqRight sep (orElse p (raise .listEnd)))).Blind L called :=
    .bind blind fun values =>
      .loop 0 none (blind_seqRight separates either) fun lists => .cons values lists
  have nonempty : (sepEndBy1 sep p).Blind L called :=
    .tryCatch list recoveries_endOfList fun _ _ => .reject .silent
  exact blind_orElse nonempty (.ret .nil)

theorem blind_printError (name : String) (minSteps : Nat) (unnamed : p.name? = none)
    (blind : p.Blind L called) : (printError name minSteps p).Blind L called := by
  simp only [printError, onError, trace, unnamed]
  exact .traced _ _ blind

theorem blind_tokenWhere (test : Token → Bool) :
    (tokenWhere fun l => test l.token : Parser β .lexeme).Blind L called := by
  refine .token fun l l' lexeme => ?_
  simp only [L.token_eq lexeme]
  split
  · exact .some lexeme
  · exact .none

end Parser

theorem Terminal.blind_ofKind (l name : String) (kind : WordKind) (f : String → a.Value β)
    (free : a.tokenless = true) :
    (Parser.label l (Parser.rename name (ofKind kind fun _ text => f text))).Blind L called := by
  refine .label l (.named name (.token fun l l' lexeme => ?_))
  rw [L.token_eq lexeme]
  cases l'.token.wordText? kind with
  | none => exact .none
  | some text => exact .some ((values_iff (.inl free)).2 rfl)

end Descent
