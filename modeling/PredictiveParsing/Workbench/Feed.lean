import PredictiveParsing.Session

/-!
# Feeds

The sources that a described grammar can be run over: symbols in memory, symbols pulled
from a list, and the characters of a reader taken as symbols.
-/

namespace PredictiveParsing.Workbench

variable {σ : Type}

inductive Feed (σ : Type) where
  | memory (symbols : Array σ)
  | stream (s : Stream (List σ) σ)
  | reader (s : Stream ReaderChars Char) (symbol : Char → σ)

namespace Feed

def symbolAt : Feed σ → Nat → Option σ × Feed σ
  | .memory symbols, i => (symbols[i]?, .memory symbols)
  | .stream s, i =>
    let (a, s) := s.symbolAt i
    (a, .stream s)
  | .reader s symbol, i =>
    let (c, s) := s.symbolAt i
    (c.map symbol, .reader s symbol)

instance : Source (Feed σ) σ where
  symbolAt := symbolAt
  bound
    | .memory symbols => Source.bound symbols
    | .stream s => Source.bound s
    | .reader s _ => Source.bound s

def kind : Feed σ → String
  | .memory _ => "slice"
  | .stream _ => "source"
  | .reader _ _ => "source"

end Feed

def inspectCursor (kind : String) (c : Cursor) : String :=
  "Input \x7b backing: " ++ Text.quoteString kind ++ ", position: " ++ toString c.position ++
    " \x7d"

def inspectOutcome {α : Type} [Symbol σ] (kind : String) : Outcome σ α → String
  | .success _ next =>
    "Ok(Success \x7b value: (), next: " ++ inspectCursor kind next ++ " \x7d)"
  | .failure f => "Err(" ++ f.inspect ++ ")"

def inspectParser (acceptsEmpty : Option Bool) : String :=
  let remembered := match acceptsEmpty with
    | none => "None"
    | some b => "Some(" ++ toString b ++ ")"
  "Parser \x7b accepts_empty: " ++ remembered ++ ", .. \x7d"

def inspectRule (isAssigned : Bool) : String :=
  "Ref \x7b assigned: " ++ toString isAssigned ++ " \x7d"

end PredictiveParsing.Workbench
