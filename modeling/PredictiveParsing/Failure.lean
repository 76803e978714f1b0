import PredictiveParsing.SymbolSet

/-!
# Failures and parse errors

A `Failure` says where a parser could not go on and why. Of two failures the one
further into the input is kept; at equal positions `merge` joins what the two
expected, and a set of expected symbols is worth more than a message unless it is
empty. A `ParseError` is a failure with its set put into words: it no longer
depends on the type of symbols.
-/

namespace PredictiveParsing

inductive Reason (σ : Type) where
  /-- The symbol there is not in this set. -/
  | expected (set : SymbolSet σ)
  /-- The input ends there, and a symbol of this set was needed. -/
  | endOfInput (set : SymbolSet σ)
  /-- A text of the parser's own. -/
  | message (text : String)

structure Failure (σ : Type) where
  position : Nat
  reason : Reason σ

variable {σ : Type}

instance : Inhabited (Failure σ) := ⟨⟨0, .expected .empty⟩⟩

namespace Reason

def set? : Reason σ → Option (SymbolSet σ)
  | .expected s => some s
  | .endOfInput s => some s
  | .message _ => none

/-- The reasons of two failures at one position, the first one's set in front. An
end of input stays one, and a message only wins over an empty set. -/
def merge : Reason σ → Reason σ → Reason σ
  | .endOfInput a, .endOfInput b => .endOfInput (a.union b)
  | .endOfInput a, .expected b => .endOfInput (a.union b)
  | .expected a, .endOfInput b => .endOfInput (a.union b)
  | .expected a, .expected b => .expected (a.union b)
  | .message m, .expected s => if s.isEmpty then .message m else .expected s
  | .expected s, .message m => if s.isEmpty then .message m else .expected s
  | .message m, .endOfInput s => if s.isEmpty then .message m else .endOfInput s
  | .endOfInput s, .message m => if s.isEmpty then .message m else .endOfInput s
  | .message m, .message _ => .message m

/-- Reasons are equal when they are of one kind with equal sets or texts. -/
instance [BEq σ] : BEq (Reason σ) where
  beq
    | .expected a, .expected b => a == b
    | .endOfInput a, .endOfInput b => a == b
    | .message m, .message n => m == n
    | _, _ => false

def inspect [Symbol σ] : Reason σ → String
  | .expected s => "Expected(" ++ s.inspect ++ ")"
  | .endOfInput s => "EndOfInput(" ++ s.inspect ++ ")"
  | .message m => "Message(" ++ Text.quoteString m ++ ")"

end Reason

namespace Failure

def isEndOfInput (f : Failure σ) : Bool :=
  match f.reason with
  | .endOfInput _ => true
  | _ => false

def isMessage (f : Failure σ) : Bool :=
  match f.reason with
  | .message _ => true
  | _ => false

/-- The further one of two failures; at equal positions, both. -/
def merge (f g : Failure σ) : Failure σ :=
  if g.position < f.position then f
  else if f.position < g.position then g
  else ⟨f.position, f.reason.merge g.reason⟩

instance [BEq σ] : BEq (Failure σ) where
  beq f g := f.position == g.position && f.reason == g.reason

def describe [Symbol σ] (f : Failure σ) : String :=
  let position := s!"at position {f.position}: "
  match f.reason with
  | .expected s => position ++ "expected " ++ s.describe
  | .endOfInput s => position ++ "unexpected end of input, expected " ++ s.describe
  | .message m => position ++ m

def inspect [Symbol σ] (f : Failure σ) : String :=
  "Failure \x7b position: Position(" ++ toString f.position ++ "), kind: " ++
    f.reason.inspect ++ " \x7d"

end Failure

/-! ### Errors without a symbol type -/

inductive ParseError where
  | expected (position : Nat) (set : String)
  | endOfInput (position : Nat) (set : String)
  | message (position : Nat) (text : String)
deriving BEq, ReflBEq, DecidableEq, Inhabited

def Failure.toError [Symbol σ] (f : Failure σ) : ParseError :=
  match f.reason with
  | .expected s => .expected f.position s.describe
  | .endOfInput s => .endOfInput f.position s.describe
  | .message m => .message f.position m

namespace ParseError

def position : ParseError → Nat
  | .expected p _ => p
  | .endOfInput p _ => p
  | .message p _ => p

def isEndOfInput : ParseError → Bool
  | .endOfInput .. => true
  | _ => false

def summary : ParseError → String
  | .expected _ set => "expected " ++ set
  | .endOfInput _ set => "unexpected end of input, expected " ++ set
  | .message _ text => text

def describe (e : ParseError) : String :=
  s!"failure at position {e.position}, " ++ e.summary

def inspect : ParseError → String
  | .expected p set => fields "Expected" p "expected" set
  | .endOfInput p set => fields "EndOfInput" p "expected" set
  | .message p text => fields "Message" p "message" text
where
  fields (constructor : String) (position : Nat) (name value : String) : String :=
    constructor ++ " \x7b position: Position(" ++ toString position ++ "), " ++ name ++ ": " ++
      Text.quoteString value ++ " \x7d"

end ParseError

end PredictiveParsing
