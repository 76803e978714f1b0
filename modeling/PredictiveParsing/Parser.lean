import PredictiveParsing.Failure
import PredictiveParsing.Misuse

/-!
# Parsers

A parser is a tree of combinators, kept as data: what it says about itself
(`Metadata`) and what it does to an input (`Run`) are functions on the tree. The
index is the type of the values it gives. Grammars are recursive through numbered
rules, whose bodies stand in a table beside the parser: `rule i` stands for the
body of rule `i` and has its type of values, `ρ i`.

The constructors are the parsers that cannot be put together from others. The rest
of the vocabulary is below them.
-/

namespace PredictiveParsing

inductive Recognizer.Step (State : Type) where
  | live (state : State)
  /-- Nothing that goes on from here can match. -/
  | dead
  /-- The recognizer gives up on this input. -/
  | quit

def Recognizer.Step.isLive {State : Type} : Recognizer.Step State → Bool
  | .live _ => true
  | .dead => false
  | .quit => false

/-- A machine that reads symbols one by one and knows which of the texts read are matches. It learns
whether the text so far is one from the symbol that comes next or from the end of the input. -/
structure Recognizer (σ : Type) where
  /-- What messages call a match. -/
  name : String
  State : Type
  start : State
  /-- Whether the text read so far is a match when this symbol comes next. -/
  matchesBefore : State → σ → Bool
  step : State → σ → Recognizer.Step State
  /-- Whether the text read so far is a match when the input ends here. -/
  matchesAtEnd : State → Bool
  /-- How long a symbol makes a text. -/
  width : σ → Nat
  width_pos : ∀ x, 0 < width x

def Recognizer.truncate {σ : Type} (r : Recognizer σ) : Nat → List σ → List σ
  | 0, _ => []
  | _ + 1, [] => []
  | width + 1, x :: text => x :: r.truncate (width + 1 - r.width x) text

inductive Side where
  | left
  | right
deriving BEq, DecidableEq, Repr

/-- Parsers of symbols `σ` over rules with values `ρ`, by the type of their values. -/
inductive Parser (σ : Type) (ρ : Nat → Type) : Type → Type 1 where
  /-- Reads nothing and gives a value. -/
  | pure {α : Type} (a : α) : Parser σ ρ α
  /-- Fails, with a message or expecting nothing. -/
  | fail {α : Type} (message : Option String) : Parser σ ρ α
  /-- Succeeds at the end of the input only. -/
  | eof : Parser σ ρ Unit
  /-- Reads one symbol of a set. -/
  | satisfy (set : SymbolSet σ) : Parser σ ρ σ
  /-- Reads the given symbols, all or none. -/
  | literal (name : String) (first : σ) (rest : List σ) : Parser σ ρ (List σ)
  /-- Reads the longest match of a recognizer. -/
  | longest (recognizer : Recognizer σ) : Parser σ ρ (List σ)
  | map {α β : Type} (f : α → β) (p : Parser σ ρ α) : Parser σ ρ β
  /-- Turns the value into another or rejects it, where the parser began. -/
  | tryMap {α β : Type} (f : α → Except String β) (p : Parser σ ρ α) : Parser σ ρ β
  /-- One after the other. -/
  | and {α β : Type} (p : Parser σ ρ α) (q : Parser σ ρ β) : Parser σ ρ (α × β)
  /-- The first one, or the second where the first fails. -/
  | or {α : Type} (p q : Parser σ ρ α) : Parser σ ρ α
  /-- Goes on with a parser that depends on the value. -/
  | flatMap {α β : Type} (p : Parser σ ρ α) (k : α → Parser σ ρ β) : Parser σ ρ β
  /-- Gives what the parser can begin on a name. -/
  | label {α : Type} (name : String) (p : Parser σ ρ α) : Parser σ ρ α
  /-- Succeeds where the parser does, with its value, and reads nothing. -/
  | lookahead {α : Type} (p : Parser σ ρ α) : Parser σ ρ α
  /-- Succeeds where the parser fails, and reads nothing. -/
  | not {α : Type} (p : Parser σ ρ α) : Parser σ ρ Unit
  | optional {α : Type} (p : Parser σ ρ α) : Parser σ ρ (Option α)
  /-- One after the other, all values kept. -/
  | sequence {α : Type} {n : Nat} (ps : Fin n → Parser σ ρ α) : Parser σ ρ (List α)
  | many {α : Type} (p : Parser σ ρ α) : Parser σ ρ (List α)
  | many1 {α : Type} (p : Parser σ ρ α) : Parser σ ρ (List α)
  | skipMany {α : Type} (p : Parser σ ρ α) : Parser σ ρ Unit
  /-- At least `min` times, and as often as it succeeds up to `max` times. -/
  | times {α : Type} (min max : Nat) (p : Parser σ ρ α) : Parser σ ρ (List α)
  /-- Until the other parser succeeds, whose value is dropped. -/
  | manyTill {α ε : Type} (p : Parser σ ρ α) (stop : Parser σ ρ ε) : Parser σ ρ (List α)
  /-- Operands with operators between them, grouped on one side. -/
  | chain {α : Type} (side : Side) (operand : Parser σ ρ α) (op : Parser σ ρ (α → α → α)) :
      Parser σ ρ α
  /-- A parser whose properties are as declared, not as computed. -/
  | declared {α : Type} (acceptsEmpty : Bool) (firstSet : SymbolSet σ) (p : Parser σ ρ α) :
      Parser σ ρ α
  /-- Notes a failure as recovered from, then goes on as the parser. -/
  | recording {α : Type} (failure : Failure σ) (p : Parser σ ρ α) : Parser σ ρ α
  /-- The body of a rule. -/
  | rule (i : Nat) : Parser σ ρ (ρ i)

/-- The rules of a grammar: there are `size` of them, and some may not have a body yet. -/
structure Rules (σ : Type) (ρ : Nat → Type) where
  size : Nat
  body : (i : Nat) → Option (Parser σ ρ (ρ i))

namespace Rules

variable {σ : Type} {ρ : Nat → Type}

def empty : Rules σ ρ := ⟨0, fun _ => none⟩

/-- The body of a rule, if there is such a rule and it has one. -/
def body? (rules : Rules σ ρ) (i : Nat) : Option (Parser σ ρ (ρ i)) :=
  if i < rules.size then rules.body i else none

/-- Gives a rule its body, unless it has one. -/
def assign (rules : Rules σ ρ) (i : Nat) (p : Parser σ ρ (ρ i)) : Except Misuse (Rules σ ρ) :=
  if (rules.body? i).isSome then .error .reassignedRule
  else .ok { rules with body := fun j => if h : j = i then some (h ▸ p) else rules.body j }

def push (rules : Rules σ ρ) (p : Option (Parser σ ρ (ρ rules.size))) : Rules σ ρ where
  size := rules.size + 1
  body j := if h : j = rules.size then h ▸ p else rules.body j

end Rules

namespace Parser

variable {σ : Type} {ρ : Nat → Type} {α β γ : Type}

instance : Inhabited (Parser σ ρ α) := ⟨.fail none⟩

/-! ### Single symbols -/

def any : Parser σ ρ σ := .satisfy .all

def symbolWhere (name : String) (test : σ → Bool) : Parser σ ρ σ :=
  .satisfy (.predicate name test)

def value (v : σ) : Parser σ ρ σ := .satisfy (.value v)

def constant (b : β) (p : Parser σ ρ α) : Parser σ ρ β := p.map fun _ => b

def valueAs (v : σ) (a : α) : Parser σ ρ α := (value v).constant a

/-! ### One after the other -/

def andL (p : Parser σ ρ α) (q : Parser σ ρ β) : Parser σ ρ α := (p.and q).map Prod.fst

def andR (p : Parser σ ρ α) (q : Parser σ ρ β) : Parser σ ρ β := (p.and q).map Prod.snd

def lift2 (f : α → β → γ) (p : Parser σ ρ α) (q : Parser σ ρ β) : Parser σ ρ γ :=
  (p.and q).map fun (a, b) => f a b

def ap (pf : Parser σ ρ (α → β)) (pa : Parser σ ρ α) : Parser σ ρ β :=
  (pf.and pa).map fun (f, a) => f a

def between (before : Parser σ ρ β) (after : Parser σ ρ γ) (p : Parser σ ρ α) :
    Parser σ ρ α :=
  (before.andR p).andL after

def sequenceOf (ps : List (Parser σ ρ α)) : Parser σ ρ (List α) :=
  let parsers := ps.toArray
  .sequence fun i : Fin parsers.size => parsers[i]

def traverse (symbols : List σ) : Parser σ ρ (List σ) :=
  sequenceOf (symbols.map value)

/-! ### Alternatives -/

/-- The first of the parsers that succeeds; without any, `fail`. -/
def choice : List (Parser σ ρ α) → Parser σ ρ α
  | [] => .fail none
  | p :: ps => ps.foldl .or p

/-! ### Repetition -/

def replicate (n : Nat) (p : Parser σ ρ α) : Parser σ ρ (List α) := .times n n p

/-- Between `min` and `max` times. Bounds that cross are refused at once. -/
def repeatBetween (min max : Nat) (p : Parser σ ρ α) : Except Misuse (Parser σ ρ (List α)) :=
  if max < min then .error (.crossedBounds min max) else .ok (.times min max p)

def sepBy1 (p : Parser σ ρ α) (sep : Parser σ ρ β) : Parser σ ρ (List α) :=
  (p.and (sep.andR p).many).map fun (first, rest) => first :: rest

def sepBy (p : Parser σ ρ α) (sep : Parser σ ρ β) : Parser σ ρ (List α) :=
  (sepBy1 p sep).optional.map fun values => values.getD []

def terminatedBy (p : Parser σ ρ α) (stop : Parser σ ρ β) : Parser σ ρ (List α) :=
  (p.andL stop).many

def terminatedBy1 (p : Parser σ ρ α) (stop : Parser σ ρ β) : Parser σ ρ (List α) :=
  (p.andL stop).many1

/-! ### Chains of operators -/

def chainl1 (operand : Parser σ ρ α) (op : Parser σ ρ (α → α → α)) : Parser σ ρ α :=
  .chain .left operand op

def chainr1 (operand : Parser σ ρ α) (op : Parser σ ρ (α → α → α)) : Parser σ ρ α :=
  .chain .right operand op

/-- Operands grouped on the left, or a value where there is none. -/
def chainl (operand : Parser σ ρ α) (op : Parser σ ρ (α → α → α)) (default : α) :
    Parser σ ρ α :=
  (chainl1 operand op).or (.pure default)

def chainr (operand : Parser σ ρ α) (op : Parser σ ρ (α → α → α)) (default : α) :
    Parser σ ρ α :=
  (chainr1 operand op).or (.pure default)

end Parser

end PredictiveParsing
