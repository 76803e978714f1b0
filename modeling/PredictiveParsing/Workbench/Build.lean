import PredictiveParsing.Workbench.Alphabet

/-!
# Building described grammars

A `Workshop` is a table of rules with names for some of them. A rule gets its body
once, at any time after it was made. A parser that is given a name becomes a rule that
has its body from the start, unless it already is one: every mention of it is then
the same rule, and what is remembered about it is shared.
-/

namespace PredictiveParsing

def Parser.rule? {σ : Type} {ρ : Nat → Type} {α : Type} : Parser σ ρ α → Option Nat
  | .rule i => some i
  | _ => none

namespace Workbench

variable {σ : Type}

/-- A table of rules, the names of those that are made to get a body later, and the names of
parsers. A name that comes back stands for the latest. -/
structure Workshop (σ : Type) where
  rules : Rules σ Uniform
  ruleNames : List (String × Nat) := []
  parserNames : List (String × Nat) := []

namespace Workshop

def new [Alphabet σ] : Workshop σ where
  rules := ⟨(Alphabet.rules (σ := σ)).size, fun i => (Alphabet.rules (σ := σ))[i]?⟩

def declare (w : Workshop σ) (name : String) : Workshop σ :=
  { w with rules := w.rules.push none, ruleNames := (name, w.rules.size) :: w.ruleNames }

def isAssigned (w : Workshop σ) (i : Nat) : Bool := (w.rules.body? i).isSome

def assign (w : Workshop σ) (i : Nat) (p : Described σ) : Except Misuse (Workshop σ) := do
  return { w with rules := ← w.rules.assign i p }

/-- The rule of a parser, which is made if it is none. -/
def share (w : Workshop σ) (p : Described σ) : Nat × Workshop σ :=
  match p.rule? with
  | some i => (i, w)
  | none => (w.rules.size, { w with rules := w.rules.push (some p) })

def define (w : Workshop σ) (name : String) (p : Described σ) : Nat × Workshop σ :=
  let (i, w) := w.share p
  (i, { w with parserNames := (name, i) :: w.parserNames })

end Workshop

def named (names : List (String × Nat)) (name : String) : Except BuildFault (Described σ) :=
  match names.lookup name with
  | some i => .ok (.rule i)
  | none => .error (.unknown name)

def branchOf (v : Value) (default : Described σ) : List (Value × Described σ) → Described σ
  | [] => default
  | (w, p) :: rest => if v == w then p else branchOf v default rest

def sameSymbol [Alphabet σ] (v : Value) : Described σ :=
  match Alphabet.ofValue? v with
  | some s => (Parser.value s).map Alphabet.toValue
  | none => .fail (some "not a symbol")

def asOperator (p : Described σ) : Parser σ Uniform (Value → Value → Value) := p.map Value.apply2

variable [Alphabet σ] (w : Workshop σ)

mutual

def Form.build : Form σ → Except BuildFault (Described σ)
  | .pure v => .ok (.pure v)
  | .fail message => .ok (.fail message)
  | .eof => .ok (Parser.eof.map fun _ => .unit)
  | .any => .ok (Parser.any.map Alphabet.toValue)
  | .satisfy name test => .ok ((Parser.symbolWhere name test).map Alphabet.toValue)
  | .value s => .ok ((Parser.value s).map Alphabet.toValue)
  | .valueAs s v => .ok (.valueAs s v)
  | .map function g => do return (← g.build).map (Value.call function)
  | .constant v g => do return (← g.build).constant v
  | .label name g => do return .label name (← g.build)
  | .tryMap check g => do return .tryMap check.run (← g.build)
  | .and g h => do
    let p ← g.build
    let q ← h.build
    return (p.and q).map Value.ofPair
  | .andL g h => do
    let p ← g.build
    let q ← h.build
    return p.andL q
  | .andR g h => do
    let p ← g.build
    let q ← h.build
    return p.andR q
  | .or g h => do
    let p ← g.build
    let q ← h.build
    return p.or q
  | .optional g => do return (← g.build).optional.map Value.ofOption
  | .thenRepeat g h => do
    let p ← g.build
    let q ← h.build
    return p.flatMap fun v => (q.replicate v.count).map .list
  | .thenSame g => do return (← g.build).flatMap sameSymbol
  | .thenPure g => do return (← g.build).flatMap .pure
  | .thenGo g h => do
    let p ← g.build
    let q ← h.build
    return p.flatMap fun _ => q
  | .thenPair g h => do
    let p ← g.build
    let q ← h.build
    return p.flatMap fun v => q.map (.pair v)
  | .thenCase g branches default => do
    let p ← g.build
    let branches ← Form.buildBranches branches
    let default ← default.build
    return p.flatMap fun v => branchOf v default branches
  | .ap f g => do
    let pf ← f.build
    let p ← g.build
    return (pf.map Value.apply).ap p
  | .lift2 function g h => do
    let p ← g.build
    let q ← h.build
    return Parser.lift2 (Value.call2 function) p q
  | .choice gs => do return .choice (← Form.buildAll gs)
  | .sequence gs => do return (Parser.sequenceOf (← Form.buildAll gs)).map .list
  | .traverse symbols =>
    .ok ((Parser.traverse symbols).map fun ss => .list (ss.map Alphabet.toValue))
  | .lookahead g => do return (← g.build).lookahead
  | .not g => do return (← g.build).not.map fun _ => .unit
  | .between before after g => do
    let before ← before.build
    let after ← after.build
    let p ← g.build
    return .between before after p
  | .many g => do return (← g.build).many.map .list
  | .many1 g => do return (← g.build).many1.map .list
  | .skipMany g => do return (← g.build).skipMany.map fun _ => .unit
  | .sepBy g sep => do
    let p ← g.build
    let sep ← sep.build
    return (p.sepBy sep).map .list
  | .sepBy1 g sep => do
    let p ← g.build
    let sep ← sep.build
    return (p.sepBy1 sep).map .list
  | .terminatedBy g stop => do
    let p ← g.build
    let stop ← stop.build
    return (p.terminatedBy stop).map .list
  | .terminatedBy1 g stop => do
    let p ← g.build
    let stop ← stop.build
    return (p.terminatedBy1 stop).map .list
  | .replicate n g => do return ((← g.build).replicate n).map .list
  | .repeatBetween min max g => do
    let p ← g.build
    match p.repeatBetween min max with
    | .ok q => return q.map .list
    | .error m => .error (.misuse m)
  | .manyTill g stop => do
    let p ← g.build
    let stop ← stop.build
    return (p.manyTill stop).map .list
  | .chain1 side g op => do
    let p ← g.build
    let op ← op.build
    return .chain side p (asOperator op)
  | .chain side g op default => do
    let p ← g.build
    let op ← op.build
    return (Parser.chain side p (asOperator op)).or (.pure default)
  | .rule name => named w.ruleNames name
  | .shared name => named w.parserNames name
  | .declared acceptsEmpty firstSet g => do
    return .declared acceptsEmpty firstSet (← g.build)
  | .recording failure g => do return .recording failure (← g.build)
  | .text form => Alphabet.textParser form

def Form.buildAll : List (Form σ) → Except BuildFault (List (Described σ))
  | [] => .ok []
  | g :: gs => do
    let p ← g.build
    let ps ← Form.buildAll gs
    return p :: ps

def Form.buildBranches :
    List (Value × Form σ) → Except BuildFault (List (Value × Described σ))
  | [] => .ok []
  | (v, g) :: rest => do
    let p ← g.build
    let ps ← Form.buildBranches rest
    return (v, p) :: ps

end

namespace Workshop

def defineAll (w : Workshop σ) : List (String × Form σ) → Except BuildFault (Workshop σ)
  | [] => .ok w
  | (name, g) :: rest => do
    let p ← g.build w
    (w.define name p).2.defineAll rest

def assignAll (w : Workshop σ) : List (String × Form σ) → Except BuildFault (Workshop σ)
  | [] => .ok w
  | (name, g) :: rest => do
    let p ← g.build w
    match w.ruleNames.lookup name with
    | none => .error (.unknown name)
    | some i =>
      match w.assign i p with
      | .error m => .error (.misuse m)
      | .ok w => w.assignAll rest

/-- A workshop with rules and named parsers. The rules are made before the parsers are built, and
get their bodies after that. -/
def ofForms (rules parsers : List (String × Form σ)) : Except BuildFault (Workshop σ) := do
  let w := rules.foldl (fun w rule => w.declare rule.1) new
  let w ← w.defineAll parsers
  w.assignAll rules

end Workshop

end Workbench

end PredictiveParsing
