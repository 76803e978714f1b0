/-!
# Sources of symbols

A source answers which symbol stands at a position. It may change in doing so, but a
position that has had its answer keeps it. A `Supply` gives symbols one after the other
and cannot go back; `Stream` makes a source of one.
-/

namespace PredictiveParsing

/-- Symbols by position. -/
class Source (S : Type) (σ : outParam Type) where
  /-- The symbol at a position, unless the input ends before it. -/
  symbolAt : S → Nat → Option σ × S
  /-- A number of symbols that the input does not exceed. -/
  bound : S → Nat

/-- Symbols one after the other. -/
class Supply (ι : Type) (σ : outParam Type) where
  /-- The next symbol, unless there is none now. -/
  next : ι → Option σ × ι
  /-- A number of symbols that the supply does not exceed. -/
  bound : ι → Nat

variable {σ : Type}

instance : Source (Array σ) σ where
  symbolAt symbols i := (symbols[i]?, symbols)
  bound symbols := symbols.size

instance : Supply (List σ) σ where
  next
    | [] => (none, [])
    | a :: rest => (some a, rest)
  bound := List.length

end PredictiveParsing
