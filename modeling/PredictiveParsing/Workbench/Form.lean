import PredictiveParsing.Parser
import PredictiveParsing.Workbench.Value

/-!
# Described grammars

A grammar written as data: the combinators by name, with the functions, tests and
values that they need described as well. `Workbench.Build` makes parsers of forms.
-/

namespace PredictiveParsing.Workbench

inductive Test (σ : Type) where
  | always (b : Bool)
  | oneOf (symbols : List σ)
  | between (lo hi : σ)
  | negated (t : Test σ)

/-- Parsers that text has and other symbols do not. -/
inductive TextForm where
  | anyChar
  | chr (c : Char)
  | alpha
  | digit
  | alphaNum
  | ws
  | skipWs
  | string (s : String)
  | uint
  | int
  | floating
  | dble
  | regex (pattern : String)
  | calculator
  | number
  | digitValue
  | letter
deriving DecidableEq

inductive Form (σ : Type) where
  | pure (v : Value)
  | fail (message : Option String)
  | eof
  | any
  | satisfy (name : String) (test : σ → Bool)
  | value (s : σ)
  | valueAs (s : σ) (v : Value)
  | map (function : String) (g : Form σ)
  | constant (v : Value) (g : Form σ)
  | label (name : String) (g : Form σ)
  | tryMap (check : Check) (g : Form σ)
  | and (g h : Form σ)
  | andL (g h : Form σ)
  | andR (g h : Form σ)
  | or (g h : Form σ)
  | optional (g : Form σ)
  /-- As often as the value says. -/
  | thenRepeat (g h : Form σ)
  /-- The value again, if it is a symbol. -/
  | thenSame (g : Form σ)
  /-- The value, without reading. -/
  | thenPure (g : Form σ)
  | thenGo (g h : Form σ)
  /-- Both values. -/
  | thenPair (g h : Form σ)
  /-- The branch of the value, or the default. -/
  | thenCase (g : Form σ) (branches : List (Value × Form σ)) (default : Form σ)
  | ap (f g : Form σ)
  | lift2 (function : String) (g h : Form σ)
  | choice (gs : List (Form σ))
  | sequence (gs : List (Form σ))
  | traverse (symbols : List σ)
  | lookahead (g : Form σ)
  | not (g : Form σ)
  | between (before after g : Form σ)
  | many (g : Form σ)
  | many1 (g : Form σ)
  | skipMany (g : Form σ)
  | sepBy (g sep : Form σ)
  | sepBy1 (g sep : Form σ)
  | terminatedBy (g stop : Form σ)
  | terminatedBy1 (g stop : Form σ)
  | replicate (n : Nat) (g : Form σ)
  | repeatBetween (min max : Nat) (g : Form σ)
  | manyTill (g stop : Form σ)
  | chain1 (side : Side) (g op : Form σ)
  | chain (side : Side) (g op : Form σ) (default : Value)
  /-- A rule, by its name. -/
  | rule (name : String)
  /-- A parser that was built before, by its name. -/
  | shared (name : String)
  | declared (acceptsEmpty : Bool) (firstSet : SymbolSet σ) (g : Form σ)
  | recording (failure : Failure σ) (g : Form σ)
  | text (form : TextForm)

end PredictiveParsing.Workbench
