import PredictiveParsing.Metadata

/-!
# Running parsers

A run of a parser goes from a cursor to an outcome: a value and the cursor behind it,
or a failure. What lies outside the parser — the symbols, what parsers say about
themselves, and the furthest failure that was recovered from — it asks of a `Host`
with a state of any type. The same definitions therefore run over an input in memory,
over one that is read as it is needed, and over whatever state a proof wants to put
in its place.

A run need not come to an outcome. `Halt` holds the two ways it can stop short of one:
a misuse of the grammar, and a budget that is spent. Each combinator is a definition of
its own over its operands, and `Parser.run` ties them to the tree. Rules stay open in
it: `Rules.apply` closes them, with a budget that falls by one at each rule entered and
bounds the rounds of every loop.
-/

namespace PredictiveParsing

/-- A place in an input. Failures recovered from are recorded on tracked cursors only. -/
structure Cursor where
  position : Nat
  tracked : Bool
deriving BEq, DecidableEq, Repr, Inhabited

namespace Cursor

def start : Cursor := ⟨0, false⟩

def advance (c : Cursor) : Cursor := { c with position := c.position + 1 }

/-- The same place, where failures recovered from are not recorded. -/
def untracked (c : Cursor) : Cursor := { c with tracked := false }

end Cursor

inductive Outcome (σ α : Type) where
  | success (value : α) (next : Cursor)
  | failure (f : Failure σ)

instance {σ α : Type} : Inhabited (Outcome σ α) := ⟨.failure default⟩

inductive Halt where
  | misuse (m : Misuse)
  /-- The budget is spent. -/
  | exhausted
deriving BEq, DecidableEq, Repr

variable {σ : Type} {ρ : Nat → Type} {St α β ε : Type}

def Outcome.map (f : α → β) : Outcome σ α → Outcome σ β
  | .success a next => .success (f a) next
  | .failure e => .failure e

/-- What a recognizer gives that began at `start`: of the symbols read, last first, the longest
match, if there is one. -/
def Recognizer.outcome (r : Recognizer σ) (start : Cursor) (read : List σ) :
    Option (Nat × Cursor) → Outcome σ (List σ)
  | some (width, next) => .success (r.truncate width read.reverse) next
  | none => .failure ⟨start.position, .message ("expected a match of " ++ r.name)⟩

abbrev Act (St α : Type) := EStateM Halt St α

abbrev Action (St σ α : Type) := Cursor → Act St (Outcome σ α)

/-- What a run asks of the world outside the parser, in a state `St`. -/
structure Host (σ : Type) (ρ : Nat → Type) (St : Type) where
  /-- The symbol at a position, unless the input ends before it. -/
  symbolAt : Nat → St → Option σ × St
  acceptsEmpty : {α : Type} → Parser σ ρ α → Inquiry St Bool
  firstSet : {α : Type} → Parser σ ρ α → Inquiry St (SymbolSet σ)
  /-- The furthest failure recovered from so far. -/
  recovered : St → Option (Failure σ)
  setRecovered : Option (Failure σ) → St → St

/-- A parser as its combinator sees it: its answers and its action. -/
structure Operand (St σ α : Type) where
  acceptsEmpty : Act St Bool
  firstSet : Act St (SymbolSet σ)
  apply : Action St σ α

def Inquiry.act (q : Inquiry St α) : Act St α := fun st =>
  match q st with
  | .ok a st => .ok a st
  | .error e st => .error (.misuse e) st

namespace Host

variable (host : Host σ ρ St)

def current (c : Cursor) : Act St (Option σ) := fun st =>
  let (symbol, st) := host.symbolAt c.position st
  .ok symbol st

def atEnd (c : Cursor) : Act St Bool := do return (← host.current c).isNone

def recover (c : Cursor) (f : Failure σ) : Act St Unit := fun st =>
  if c.tracked then
    let furthest := match host.recovered st with
      | some g => g.merge f
      | none => f
    .ok () (host.setRecovered (some furthest) st)
  else .ok () st

/-- Whether the input ends at the cursor where the parser needs a symbol. -/
def endsBefore (p : Operand St σ α) (c : Cursor) : Act St Bool := do
  if ← host.atEnd c then return !(← p.acceptsEmpty) else return false

def predicts [BEq σ] (first : SymbolSet σ) (c : Cursor) : Act St Bool := do
  match ← host.current c with
  | some s => return first.contains s
  | none => return false

/-! ### Symbols -/

def eof : Action St σ Unit := fun c => do
  if ← host.atEnd c then return .success () c
  else return .failure ⟨c.position, .message "expected end of input"⟩

def satisfy [BEq σ] (set : SymbolSet σ) : Action St σ σ := fun c => do
  match ← host.current c with
  | none => return .failure ⟨c.position, .endOfInput set⟩
  | some s =>
    if set.contains s then return .success s c.advance
    else return .failure ⟨c.position, .expected set⟩

/-- Compares the input with symbols one by one: the cursor behind them, or none at the first
difference. -/
def expectEach [BEq σ] : List σ → Cursor → Act St (Option Cursor)
  | [], c => return some c
  | want :: rest, c => do
    match ← host.current c with
    | some s => if s == want then expectEach rest c.advance else return none
    | none => return none

/-- Reads the given symbols. Whatever the first difference is, the failure is at the start. -/
def literal [BEq σ] (name : String) (first : σ) (rest : List σ) : Action St σ (List σ) := fun c => do
  match ← host.expectEach (first :: rest) c with
  | some next => return .success (first :: rest) next
  | none =>
    let set := .predicate name (· == first)
    if ← host.atEnd c then return .failure ⟨c.position, .endOfInput set⟩
    else return .failure ⟨c.position, .expected set⟩

/-- The rounds of a recognizer that began at `start`. `read` holds the symbols read, last first, and
`width` is theirs; `best` is the width of the longest match so far, with the cursor behind it. -/
def longestFrom (r : Recognizer σ) (start : Cursor) :
    Nat → r.State → List σ → (width : Nat) → Option (Nat × Cursor) → Action St σ (List σ)
  | 0, _, _, _, _, _ => throw .exhausted
  | rounds + 1, state, read, width, best, c => do
    match ← host.current c with
    | none =>
      return r.outcome start read (if r.matchesAtEnd state then some (width, c) else best)
    | some s =>
      let best := if r.matchesBefore state s then some (width, c) else best
      match r.step state s with
      | .live state =>
        longestFrom r start rounds state (s :: read) (width + r.width s) best c.advance
      | .dead => return r.outcome start read best
      | .quit =>
        return .failure ⟨c.position, .message (r.name ++ " cannot be matched against this input")⟩

def longest (rounds : Nat) (r : Recognizer σ) : Action St σ (List σ) := fun c =>
  host.longestFrom r c rounds r.start [] 0 none c

/-! ### One parser after another -/

def tryMap (f : α → Except String β) (p : Operand St σ α) : Action St σ β := fun c => do
  match ← p.apply c with
  | .failure e => return .failure e
  | .success a next =>
    match f a with
    | .ok b => return .success b next
    | .error message => return .failure ⟨c.position, .message message⟩

def and (p : Operand St σ α) (q : Operand St σ β) : Action St σ (α × β) := fun c => do
  match ← p.apply c with
  | .failure e => return .failure e
  | .success a next =>
    if ← host.endsBefore q next then
      return .failure ⟨next.position, .endOfInput (← q.firstSet)⟩
    else
      match ← q.apply next with
      | .failure e => return .failure e
      | .success b next => return .success (a, b) next

def flatMap (p : Operand St σ α) (k : α → Action St σ β) : Action St σ β := fun c => do
  match ← p.apply c with
  | .failure e => return .failure e
  | .success a next => k a next

/-- One after the other, from a cursor and with the values so far, last first. -/
def sequenceFrom (values : List α) (c : Cursor) :
    List (Operand St σ α) → Act St (Outcome σ (List α))
  | [] => return .success values.reverse c
  | p :: ps => do
    if ← host.endsBefore p c then
      return .failure ⟨c.position, .endOfInput (← p.firstSet)⟩
    else
      match ← p.apply c with
      | .failure e => return .failure e
      | .success a next => sequenceFrom (a :: values) next ps

/-! ### Alternatives -/

/-- The outcome of the second alternative after the first one's failure. -/
def orElse (c : Cursor) (left : Failure σ) : Outcome σ α → Act St (Outcome σ α)
  | .success a next => do
    host.recover c left
    return .success a next
  | .failure right => return .failure (left.merge right)

/-- The first alternative, or the second where it fails. At the end of the input only those
that accept empty input are tried. -/
def or (p q : Operand St σ α) : Action St σ α := fun c => do
  if ← host.atEnd c then
    let rightAccepts ← q.acceptsEmpty
    if ← p.acceptsEmpty then
      match ← p.apply c with
      | .success a next => return .success a next
      | .failure left =>
        if rightAccepts then host.orElse c left (← q.apply c) else return .failure left
    else if rightAccepts then q.apply c
    else
      let left ← p.firstSet
      let right ← q.firstSet
      return .failure ⟨c.position, .endOfInput (left.union right)⟩
  else
    match ← p.apply c with
    | .success a next => return .success a next
    | .failure left => host.orElse c left (← q.apply c)

def optional (p : Operand St σ α) : Action St σ (Option α) := fun c => do
  if ← host.endsBefore p c then return .success none c
  else
    match ← p.apply c with
    | .success a next => return .success (some a) next
    | .failure e =>
      host.recover c e
      return .success none c

/-- A failure at the start that names a set names the label instead. -/
def label [BEq σ] (name : String) (p : Operand St σ α) : Action St σ α := fun c => do
  match ← p.apply c with
  | .success a next => return .success a next
  | .failure e =>
    if e.position != c.position || e.isMessage then return .failure e
    else
      let set := .predicate name (← p.firstSet).contains
      if e.isEndOfInput then return .failure ⟨e.position, .endOfInput set⟩
      else return .failure ⟨e.position, .expected set⟩

/-! ### Looking without reading -/

def lookahead (p : Operand St σ α) : Action St σ α := fun c => do
  match ← p.apply c with
  | .success a _ => return .success a c
  | .failure e => return .failure e

/-- Succeeds where the parser fails. What the parser recovers from is not recorded. -/
def not (p : Operand St σ α) : Action St σ Unit := fun c => do
  match ← p.apply c.untracked with
  | .success _ _ => return .failure ⟨c.position, .message "unexpected success"⟩
  | .failure _ => return .success () c

/-! ### Repetition -/

def needsSymbol (repetition : Repetition) (p : Operand St σ α) : Act St Unit := do
  if ← p.acceptsEmpty then throw (.misuse (.emptyRepetition repetition))

/-- Rounds of a parser for as long as the next symbol is one it can begin on. A round that fails
where it began ends them, and one that fails further on is the failure of all. -/
def roundsWhile [BEq σ] (first : SymbolSet σ) (p : Action St σ α) (step : β → α → β) :
    Nat → β → Cursor → Act St (Outcome σ β)
  | 0, _, _ => throw .exhausted
  | rounds + 1, acc, c => do
    if ← host.predicts first c then
      match ← p c with
      | .success a next => roundsWhile first p step rounds (step acc a) next
      | .failure e =>
        if c.position < e.position then return .failure e
        else
          host.recover c e
          return .success acc c
    else return .success acc c

def many [BEq σ] (rounds : Nat) (p : Operand St σ α) : Action St σ (List α) := fun c => do
  needsSymbol .many p
  let first ← p.firstSet
  return (← host.roundsWhile first p.apply (fun values a => a :: values) rounds [] c).map
    List.reverse

def many1 [BEq σ] (rounds : Nat) (p : Operand St σ α) : Action St σ (List α) := fun c => do
  needsSymbol .many1 p
  match ← p.apply c with
  | .failure e => return .failure e
  | .success a next =>
    let first ← p.firstSet
    return (← host.roundsWhile first p.apply (fun values a => a :: values) rounds [a] next).map
      List.reverse

def skipMany [BEq σ] (rounds : Nat) (p : Operand St σ α) : Action St σ Unit := fun c => do
  needsSymbol .skipMany p
  let first ← p.firstSet
  host.roundsWhile first p.apply (fun _ _ => ()) rounds () c

/-- Rounds of which `required` have to succeed and at most `allowed` are made, with the values so
far, last first. -/
def timesFrom (p : Operand St σ α) :
    (required allowed : Nat) → List α → Cursor → Act St (Outcome σ (List α))
  | _, 0, values, c => return .success values.reverse c
  | required, allowed + 1, values, c => do
    if ← host.endsBefore p c then
      if required = 0 then return .success values.reverse c
      else return .failure ⟨c.position, .endOfInput (← p.firstSet)⟩
    else
      match ← p.apply c with
      | .success a next => timesFrom p (required - 1) allowed (a :: values) next
      | .failure e =>
        if required = 0 then
          host.recover c e
          return .success values.reverse c
        else return .failure e

def times (min max : Nat) (p : Operand St σ α) : Action St σ (List α) := fun c => do
  if min < max then needsSymbol .between p
  host.timesFrom p min max [] c

/-- Rounds of a parser until the other one succeeds, with the values so far, last first. -/
def manyTillFrom (p : Operand St σ α) (stop : Operand St σ ε) :
    Nat → List α → Cursor → Act St (Outcome σ (List α))
  | 0, _, _ => throw .exhausted
  | rounds + 1, values, c => do
    if ← host.atEnd c then
      if ← stop.acceptsEmpty then
        return (← stop.apply c).map fun _ => values.reverse
      else return .failure ⟨c.position, .endOfInput (← stop.firstSet)⟩
    else
      match ← stop.apply c with
      | .success _ next => return .success values.reverse next
      | .failure stopFailure =>
        match ← p.apply c with
        | .success a next =>
          host.recover c stopFailure
          manyTillFrom p stop rounds (a :: values) next
        | .failure e => return .failure (stopFailure.merge e)

def manyTill (rounds : Nat) (p : Operand St σ α) (stop : Operand St σ ε) :
    Action St σ (List α) := fun c => do
  needsSymbol .manyTill p
  host.manyTillFrom p stop rounds [] c

/-! ### Chains of operators -/

/-- Whether the operator of a chain cannot begin at the cursor. One that accepts empty input
always can, and the input is not looked at. -/
def chainEnds [BEq σ] (opEmpty : Bool) (opFirst : SymbolSet σ) (c : Cursor) : Act St Bool := do
  if opEmpty then return false else return !(← host.predicts opFirst c)

def chainRound (operand : Action St σ α) (op : Action St σ β) : Action St σ (β × α) := fun c => do
  match ← op c with
  | .failure e => return .failure e
  | .success f next => return (← operand next).map fun a => (f, a)

/-- Rounds of an operator and an operand for as long as the operator can begin, with the pairs so
far, last first. -/
def chainFrom [BEq σ] (opEmpty : Bool) (opFirst : SymbolSet σ) (operand : Action St σ α)
    (op : Action St σ β) : Nat → List (β × α) → Cursor → Act St (Outcome σ (List (β × α)))
  | 0, _, _ => throw .exhausted
  | rounds + 1, pairs, c => do
    if ← host.chainEnds opEmpty opFirst c then return .success pairs c
    else
      match ← chainRound operand op c with
      | .success pair next => chainFrom opEmpty opFirst operand op rounds (pair :: pairs) next
      | .failure e =>
        if c.position < e.position then return .failure e
        else
          host.recover c e
          return .success pairs c

def groupLeft (first : α) (pairs : List ((α → α → α) × α)) : α :=
  pairs.foldl (fun acc (f, a) => f acc a) first

/-- A first operand and operators with operands, the last pair first, grouped on the right. -/
def groupRight (first : α) : List ((α → α → α) × α) → α
  | [] => first
  | (f, last) :: pairs => go f last pairs
where
  /-- Takes up the pairs before an operator whose right side is known. -/
  go (f : α → α → α) (right : α) : List ((α → α → α) × α) → α
    | [] => f first right
    | (g, a) :: pairs => go g (f a right) pairs

def group (side : Side) (first : α) (pairs : List ((α → α → α) × α)) : α :=
  match side with
  | .left => groupLeft first pairs.reverse
  | .right => groupRight first pairs

/-- Refuses a chain whose operator and operand both accept empty input. -/
def needsOperand (opEmpty : Bool) (operand : Operand St σ α) : Act St Unit := do
  if opEmpty then
    if ← operand.acceptsEmpty then throw (.misuse .emptyChain)

def chain [BEq σ] (rounds : Nat) (side : Side) (operand : Operand St σ α)
    (op : Operand St σ (α → α → α)) : Action St σ α := fun c => do
  match ← operand.apply c with
  | .failure e => return .failure e
  | .success first next =>
    let opFirst ← op.firstSet
    let opEmpty ← op.acceptsEmpty
    needsOperand opEmpty operand
    return (← host.chainFrom opEmpty opFirst operand.apply op.apply rounds [] next).map
      (group side first)

end Host

/-! ### Trees -/

/-- What a parser does, with the actions of rules given and at most `rounds` rounds in a loop. -/
def Parser.run [BEq σ] (host : Host σ ρ St) (rule : (i : Nat) → Action St σ (ρ i))
    (rounds : Nat) : {α : Type} → Parser σ ρ α → Action St σ α
  | _, .pure a => fun c => return .success a c
  | _, .fail none => fun c => return .failure ⟨c.position, .expected .empty⟩
  | _, .fail (some message) => fun c => return .failure ⟨c.position, .message message⟩
  | _, .eof => host.eof
  | _, .satisfy set => host.satisfy set
  | _, .literal name first rest => host.literal name first rest
  | _, .longest r => host.longest rounds r
  | _, .map f p => fun c => do return (← p.run host rule rounds c).map f
  | _, .tryMap f p => Host.tryMap f (operand host p (p.run host rule rounds))
  | _, .and p q =>
    host.and (operand host p (p.run host rule rounds)) (operand host q (q.run host rule rounds))
  | _, .or p q =>
    host.or (operand host p (p.run host rule rounds)) (operand host q (q.run host rule rounds))
  | _, .flatMap p k =>
    Host.flatMap (operand host p (p.run host rule rounds)) fun a => (k a).run host rule rounds
  | _, .label name p => Host.label name (operand host p (p.run host rule rounds))
  | _, .lookahead p => Host.lookahead (operand host p (p.run host rule rounds))
  | _, .not p => Host.not (operand host p (p.run host rule rounds))
  | _, .optional p => host.optional (operand host p (p.run host rule rounds))
  | _, .sequence ps => fun c =>
    host.sequenceFrom [] c (.ofFn fun i => operand host (ps i) ((ps i).run host rule rounds))
  | _, .many p => host.many rounds (operand host p (p.run host rule rounds))
  | _, .many1 p => host.many1 rounds (operand host p (p.run host rule rounds))
  | _, .skipMany p => host.skipMany rounds (operand host p (p.run host rule rounds))
  | _, .times min max p => host.times min max (operand host p (p.run host rule rounds))
  | _, .manyTill p stop =>
    host.manyTill rounds (operand host p (p.run host rule rounds))
      (operand host stop (stop.run host rule rounds))
  | _, .chain side p op =>
    host.chain rounds side (operand host p (p.run host rule rounds))
      (operand host op (op.run host rule rounds))
  | _, .declared _ _ p => p.run host rule rounds
  | _, .recording f p => fun c => do
    host.recover c f
    p.run host rule rounds c
  | _, .rule i => rule i
where
  /-- A parser and its action as an operand. -/
  operand {α : Type} (host : Host σ ρ St) (p : Parser σ ρ α) (apply : Action St σ α) :
      Operand St σ α :=
    ⟨(host.acceptsEmpty p).act, (host.firstSet p).act, apply⟩

namespace Rules

def apply [BEq σ] (rules : Rules σ ρ) (host : Host σ ρ St) :
    Nat → {α : Type} → Parser σ ρ α → Action St σ α
  | 0, _, _ => fun _ => throw .exhausted
  | budget + 1, _, p =>
    p.run host
      (fun i =>
        match rules.body? i with
        | some body => rules.apply host budget body
        | none => fun _ => throw (.misuse .unassignedRule))
      budget

/-- The outcome of a parse that has to use all the input. -/
def wholeInput (host : Host σ ρ St) (c : Cursor) : Outcome σ α → Act St (Outcome σ α)
  | .failure e => return .failure e
  | .success a next => do
    if ← host.atEnd next then return .success a { c with position := next.position }
    else return .failure ⟨next.position, .message "expected end of input"⟩

/-- The outcome of a parse when this failure was recovered from: a failure gives way to one
further on. -/
def orFurther (recovered : Option (Failure σ)) : Outcome σ α → Outcome σ α
  | .failure e =>
    match recovered with
    | some f => .failure (if e.position < f.position then f else e)
    | none => .failure e
  | .success a next => .success a next

/-- Parses the whole input from a cursor on. The properties of the parser are asked for first,
which refuses a left-recursive grammar whatever the input is. -/
def parse [BEq σ] (rules : Rules σ ρ) (host : Host σ ρ St) (budget : Nat) (p : Parser σ ρ α) :
    Action St σ α := fun c => do
  let acceptsEmpty ← (host.acceptsEmpty p).act
  let first ← (host.firstSet p).act
  let ended ← host.atEnd c
  if ended && !acceptsEmpty then return .failure ⟨c.position, .endOfInput first⟩
  else
    modify (host.setRecovered none)
    let outcome ← rules.apply host budget p { c with tracked := true }
    let outcome ← wholeInput host c outcome
    return orFurther (host.recovered (← get)) outcome

end Rules

end PredictiveParsing
