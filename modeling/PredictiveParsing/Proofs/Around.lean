import Mathlib.Logic.Basic
import PredictiveParsing.Run

/-!
# Runs with something around every parser

`Parser.runAround` runs a parser as `Parser.run` does, with a change made to the action of
every parser on the way: of the parser itself, and of those it is put together from
wherever they are applied. Changing nothing gives the run itself (`Parser.runAround_none`).
-/

namespace PredictiveParsing

variable {σ : Type} {ρ : Nat → Type} {St α : Type}

abbrev Around (σ : Type) (ρ : Nat → Type) (St : Type) :=
  (α : Type) → Parser σ ρ α → Action St σ α → Action St σ α

def Around.none : Around σ ρ St := fun _ _ act => act

/-- What a parser does, with a change to the action of every parser in it. -/
def Parser.runAround [BEq σ] (around : Around σ ρ St) (host : Host σ ρ St)
    (rule : (i : Nat) → Action St σ (ρ i)) (rounds : Nat) :
    {α : Type} → Parser σ ρ α → Action St σ α
  | _, .pure a => around _ (.pure a) fun c => return .success a c
  | α, .fail none =>
    around α (.fail none) fun c => return .failure ⟨c.position, .expected .empty⟩
  | α, .fail (some message) =>
    around α (.fail (some message)) fun c => return .failure ⟨c.position, .message message⟩
  | _, .eof => around _ .eof host.eof
  | _, .satisfy set => around _ (.satisfy set) (host.satisfy set)
  | _, .literal name first rest =>
    around _ (.literal name first rest) (host.literal name first rest)
  | _, .longest r => around _ (.longest r) (host.longest rounds r)
  | _, .map f p => around _ (.map f p) fun c => do
    return (← p.runAround around host rule rounds c).map f
  | _, .tryMap f p => around _ (.tryMap f p)
    (Host.tryMap f (run.operand host p (p.runAround around host rule rounds)))
  | _, .and p q => around _ (.and p q)
    (host.and (run.operand host p (p.runAround around host rule rounds))
      (run.operand host q (q.runAround around host rule rounds)))
  | _, .or p q => around _ (.or p q)
    (host.or (run.operand host p (p.runAround around host rule rounds))
      (run.operand host q (q.runAround around host rule rounds)))
  | _, .flatMap p k => around _ (.flatMap p k)
    (Host.flatMap (run.operand host p (p.runAround around host rule rounds))
      fun a => (k a).runAround around host rule rounds)
  | _, .label name p => around _ (.label name p)
    (Host.label name (run.operand host p (p.runAround around host rule rounds)))
  | _, .lookahead p => around _ (.lookahead p)
    (Host.lookahead (run.operand host p (p.runAround around host rule rounds)))
  | _, .not p => around _ (.not p)
    (Host.not (run.operand host p (p.runAround around host rule rounds)))
  | _, .optional p => around _ (.optional p)
    (host.optional (run.operand host p (p.runAround around host rule rounds)))
  | _, .sequence ps => around _ (.sequence ps) fun c =>
    host.sequenceFrom [] c
      (.ofFn fun i => run.operand host (ps i) ((ps i).runAround around host rule rounds))
  | _, .many p => around _ (.many p)
    (host.many rounds (run.operand host p (p.runAround around host rule rounds)))
  | _, .many1 p => around _ (.many1 p)
    (host.many1 rounds (run.operand host p (p.runAround around host rule rounds)))
  | _, .skipMany p => around _ (.skipMany p)
    (host.skipMany rounds (run.operand host p (p.runAround around host rule rounds)))
  | _, .times min max p => around _ (.times min max p)
    (host.times min max (run.operand host p (p.runAround around host rule rounds)))
  | _, .manyTill p stop => around _ (.manyTill p stop)
    (host.manyTill rounds (run.operand host p (p.runAround around host rule rounds))
      (run.operand host stop (stop.runAround around host rule rounds)))
  | _, .chain side p op => around _ (.chain side p op)
    (host.chain rounds side (run.operand host p (p.runAround around host rule rounds))
      (run.operand host op (op.runAround around host rule rounds)))
  | _, .declared acceptsEmpty set p =>
    around _ (.declared acceptsEmpty set p) (p.runAround around host rule rounds)
  | _, .recording f p => around _ (.recording f p) fun c => do
    host.recover c f
    p.runAround around host rule rounds c
  | _, .rule i => around _ (.rule i) (rule i)

/-- A change of nothing is no change to the run. -/
theorem Parser.runAround_none [BEq σ] (host : Host σ ρ St)
    (rule : (i : Nat) → Action St σ (ρ i)) (rounds : Nat) (p : Parser σ ρ α) :
    p.runAround Around.none host rule rounds = p.run host rule rounds := by
  induction p with
  | pure | eof | satisfy | literal | longest | rule => rfl
  | fail message =>
      cases message with
      | none => rfl
      | some message => rfl
  | map f p ih =>
      exact congrArg (fun act => (fun c => do return (← act c).map f : Action St σ _)) ih
  | tryMap f p ih => exact congrArg (fun act => Host.tryMap f (run.operand host p act)) ih
  | and p q ihp ihq =>
      exact congrArg₂ (fun act act' =>
        host.and (run.operand host p act) (run.operand host q act')) ihp ihq
  | or p q ihp ihq =>
      exact congrArg₂ (fun act act' =>
        host.or (run.operand host p act) (run.operand host q act')) ihp ihq
  | flatMap p k ihp ihk =>
      exact congrArg₂ (fun act acts => Host.flatMap (run.operand host p act) acts) ihp
        (funext ihk)
  | label name p ih => exact congrArg (fun act => Host.label name (run.operand host p act)) ih
  | lookahead p ih => exact congrArg (fun act => Host.lookahead (run.operand host p act)) ih
  | not p ih => exact congrArg (fun act => Host.not (run.operand host p act)) ih
  | optional p ih => exact congrArg (fun act => host.optional (run.operand host p act)) ih
  | sequence ps ih =>
      exact congrArg (fun (acts : (i : Fin _) → Action St σ _) c =>
        host.sequenceFrom [] c (.ofFn fun i => run.operand host (ps i) (acts i))) (funext ih)
  | many p ih => exact congrArg (fun act => host.many rounds (run.operand host p act)) ih
  | many1 p ih => exact congrArg (fun act => host.many1 rounds (run.operand host p act)) ih
  | skipMany p ih => exact congrArg (fun act => host.skipMany rounds (run.operand host p act)) ih
  | times min max p ih =>
      exact congrArg (fun act => host.times min max (run.operand host p act)) ih
  | manyTill p stop ihp ihs =>
      exact congrArg₂ (fun act act' =>
        host.manyTill rounds (run.operand host p act) (run.operand host stop act')) ihp ihs
  | chain side operand op ihp iho =>
      exact congrArg₂ (fun act act' =>
        host.chain rounds side (run.operand host operand act) (run.operand host op act')) ihp iho
  | declared _ _ p ih => exact ih
  | recording f p ih =>
      exact congrArg (fun act => (fun c => do
        host.recover c f
        act c : Action St σ _)) ih

def Rules.applyAround [BEq σ] (around : Around σ ρ St) (rules : Rules σ ρ) (host : Host σ ρ St) :
    Nat → {α : Type} → Parser σ ρ α → Action St σ α
  | 0, _, _ => fun _ => throw .exhausted
  | budget + 1, _, p =>
    p.runAround around host
      (fun i =>
        match rules.body? i with
        | some body => rules.applyAround around host budget body
        | none => fun _ => throw (.misuse .unassignedRule))
      budget

theorem Rules.applyAround_none [BEq σ] (rules : Rules σ ρ) (host : Host σ ρ St) (budget : Nat)
    (p : Parser σ ρ α) :
    rules.applyAround Around.none host budget p = rules.apply host budget p := by
  induction budget generalizing α p with
  | zero => rfl
  | succ budget ih =>
      rw [applyAround, Parser.runAround_none]
      refine congrArg (fun rule => p.run host rule budget) (funext ?_)
      intro i
      cases rules.body? i with
      | none => rfl
      | some body => exact ih body

end PredictiveParsing
