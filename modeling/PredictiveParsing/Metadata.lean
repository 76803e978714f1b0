import PredictiveParsing.Parser

/-!
# What a parser says about itself

Whether a parser accepts empty input, and the symbols it can begin on, follow from
its tree by one formula for each combinator. The formulas consult their parts in a
fixed order and stop as soon as the answer is known, which decides the misuse that is
met first in a faulty grammar. What a rule answers is left open: the formulas run in
any state `κ` and are handed the answers of rules.

`Memory` is the state of the answers in use. It remembers the answer of every rule
that has finished, and it lists the answers being worked out: asking for one of those
again is left recursion. An answer leaves the list when it is found and when its
computation is given up.
-/

namespace PredictiveParsing

variable {σ : Type} {ρ : Nat → Type} {α κ : Type}

/-- A question about the grammar: an answer or a misuse, and the state after it. -/
abbrev Inquiry (κ α : Type) := EStateM Misuse κ α

/-- Whether every inquiry answers yes; those after the first no are not made. -/
def Inquiry.all : List (Inquiry κ Bool) → Inquiry κ Bool
  | [] => return true
  | q :: qs => do if ← q then Inquiry.all qs else return false

/-- The union of the sets of parsers in turn, up to the first one that needs a symbol. Each
parser is given by its set and whether it accepts empty input. -/
def Inquiry.unionUpToNonempty (acc : SymbolSet σ) :
    List (Inquiry κ (SymbolSet σ) × Inquiry κ Bool) → Inquiry κ (SymbolSet σ)
  | [] => return acc
  | (first, acceptsEmpty) :: rest => do
    let acc := acc.union (← first)
    if ← acceptsEmpty then unionUpToNonempty acc rest else return acc

namespace Parser

/-- Whether the parser can succeed without reading a symbol, given the answers of rules. -/
def acceptsEmpty (rule : Nat → Inquiry κ Bool) : {α : Type} → Parser σ ρ α → Inquiry κ Bool
  | _, .pure _ => return true
  | _, .fail _ => return false
  | _, .eof => return true
  | _, .satisfy _ => return false
  | _, .literal .. => return false
  | _, .longest r => return r.matchesAtEnd r.start
  | _, .map _ p => p.acceptsEmpty rule
  | _, .tryMap _ p => p.acceptsEmpty rule
  | _, .and p q => do if ← p.acceptsEmpty rule then q.acceptsEmpty rule else return false
  | _, .or p q => do if ← p.acceptsEmpty rule then return true else q.acceptsEmpty rule
  | _, .flatMap p _ => p.acceptsEmpty rule
  | _, .label _ p => p.acceptsEmpty rule
  | _, .lookahead _ => return true
  | _, .not _ => return true
  | _, .optional _ => return true
  | _, .sequence ps => Inquiry.all (.ofFn fun i => (ps i).acceptsEmpty rule)
  | _, .many _ => return true
  | _, .many1 p => p.acceptsEmpty rule
  | _, .skipMany _ => return true
  | _, .times min _ p => if min = 0 then return true else p.acceptsEmpty rule
  | _, .manyTill _ stop => stop.acceptsEmpty rule
  | _, .chain _ operand _ => operand.acceptsEmpty rule
  | _, .declared acceptsEmpty _ _ => return acceptsEmpty
  | _, .recording _ p => p.acceptsEmpty rule
  | _, .rule i => rule i

def firstSet [BEq σ] (ruleEmpty : Nat → Inquiry κ Bool) (rule : Nat → Inquiry κ (SymbolSet σ)) :
    {α : Type} → Parser σ ρ α → Inquiry κ (SymbolSet σ)
  | _, .pure _ => return .empty
  | _, .fail _ => return .empty
  | _, .eof => return .empty
  | _, .satisfy set => return set
  | _, .literal name first _ => return .predicate name (· == first)
  | _, .longest r => return .predicate r.name fun s => (r.step r.start s).isLive
  | _, .map _ p => p.firstSet ruleEmpty rule
  | _, .tryMap _ p => p.firstSet ruleEmpty rule
  | _, .and p q => do
    if ← p.acceptsEmpty ruleEmpty then
      let left ← p.firstSet ruleEmpty rule
      return left.union (← q.firstSet ruleEmpty rule)
    else p.firstSet ruleEmpty rule
  | _, .or p q => do
    let left ← p.firstSet ruleEmpty rule
    return left.union (← q.firstSet ruleEmpty rule)
  | _, .flatMap p _ => do
    if ← p.acceptsEmpty ruleEmpty then return .all else p.firstSet ruleEmpty rule
  | _, .label name p => do
    let first ← p.firstSet ruleEmpty rule
    return .predicate name first.contains
  | _, .lookahead p => p.firstSet ruleEmpty rule
  | _, .not _ => return .empty
  | _, .optional p => p.firstSet ruleEmpty rule
  | _, .sequence ps =>
    Inquiry.unionUpToNonempty .empty
      (.ofFn fun i => ((ps i).firstSet ruleEmpty rule, (ps i).acceptsEmpty ruleEmpty))
  | _, .many p => p.firstSet ruleEmpty rule
  | _, .many1 p => p.firstSet ruleEmpty rule
  | _, .skipMany p => p.firstSet ruleEmpty rule
  | _, .times _ max p => if max = 0 then return .empty else p.firstSet ruleEmpty rule
  | _, .manyTill p stop => do
    let first ← stop.firstSet ruleEmpty rule
    return first.union (← p.firstSet ruleEmpty rule)
  | _, .chain _ operand _ => operand.firstSet ruleEmpty rule
  | _, .declared _ set _ => return set
  | _, .recording _ p => p.firstSet ruleEmpty rule
  | _, .rule i => rule i

end Parser

/-! ### Remembered answers -/

/-- The answers found so far and the questions being worked out, latest first. -/
structure Memory (σ : Type) where
  acceptsEmpty : List (Nat × Bool) := []
  firstSet : List (Nat × SymbolSet σ) := []
  inProgress : List (Property × Nat) := []

namespace Memory

instance : Inhabited (Memory σ) := ⟨{}⟩

def finish (question : Property × Nat) (m : Memory σ) : Memory σ :=
  { m with inProgress := m.inProgress.erase question }

/-- Answers a question about a rule: from memory if it has been answered, with left recursion if
it is being worked out, and by computing it otherwise. -/
def consult (question : Property × Nat) (known? : Memory σ → Option α)
    (remember : α → Memory σ → Memory σ) (compute : Inquiry (Memory σ) α) :
    Inquiry (Memory σ) α := fun m =>
  match known? m with
  | some a => .ok a m
  | none =>
    if m.inProgress.contains question then .error (.leftRecursion question.1) m
    else
      match compute { m with inProgress := question :: m.inProgress } with
      | .ok a m => .ok a (remember a (m.finish question))
      | .error e m => .error e (m.finish question)

/-- Whether a rule accepts empty input. At most `depth` rules can be entered before one comes
back, so a depth of the number of rules is always enough. -/
def ruleAcceptsEmpty (rules : Rules σ ρ) (depth i : Nat) : Inquiry (Memory σ) Bool :=
  consult (.acceptsEmpty, i) (fun m => m.acceptsEmpty.lookup i)
    (fun a m => { m with acceptsEmpty := (i, a) :: m.acceptsEmpty })
    (match rules.body? i, depth with
    | none, _ => throw .unassignedRule
    | some _, 0 => throw (.leftRecursion .acceptsEmpty)
    | some p, depth + 1 => p.acceptsEmpty (ruleAcceptsEmpty rules depth))

def ruleFirstSet [BEq σ] (rules : Rules σ ρ) (depth i : Nat) : Inquiry (Memory σ) (SymbolSet σ) :=
  consult (.firstSet, i) (fun m => m.firstSet.lookup i)
    (fun a m => { m with firstSet := (i, a) :: m.firstSet })
    (match rules.body? i, depth with
    | none, _ => throw .unassignedRule
    | some _, 0 => throw (.leftRecursion .firstSet)
    | some p, depth + 1 =>
      p.firstSet (ruleAcceptsEmpty rules rules.size) (ruleFirstSet rules depth))

def askAcceptsEmpty (rules : Rules σ ρ) (p : Parser σ ρ α) : Inquiry (Memory σ) Bool :=
  p.acceptsEmpty (ruleAcceptsEmpty rules rules.size)

def askFirstSet [BEq σ] (rules : Rules σ ρ) (p : Parser σ ρ α) :
    Inquiry (Memory σ) (SymbolSet σ) :=
  p.firstSet (ruleAcceptsEmpty rules rules.size) (ruleFirstSet rules rules.size)

end Memory

end PredictiveParsing
