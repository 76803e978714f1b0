import PredictiveParsing.Source.Basic

/-!
# Streams

A stream makes a source of a supply. It pulls a symbol only when a position is looked at
that it has not reached, keeps what it has pulled, and once the supply has had nothing to
give it never asks again.
-/

namespace PredictiveParsing

/-- A supply, the symbols pulled from it, and whether it has ended. -/
structure Stream (ι σ : Type) where
  pulled : Array σ
  ended : Bool
  supply : ι

namespace Stream

variable {ι σ : Type}

def ofSupply (supply : ι) : Stream ι σ := ⟨#[], false, supply⟩

def pull [Supply ι σ] : Nat → Stream ι σ → Stream ι σ
  | 0, s => s
  | _ + 1, ⟨pulled, true, supply⟩ => ⟨pulled, true, supply⟩
  | n + 1, ⟨pulled, false, supply⟩ =>
    match Supply.next supply with
    | (some a, supply) => pull n ⟨pulled.push a, false, supply⟩
    | (none, supply) => ⟨pulled, true, supply⟩

/-- The symbol at a position, after pulling what is missing up to it. -/
def symbolAt [Supply ι σ] (s : Stream ι σ) (i : Nat) : Option σ × Stream ι σ :=
  let missing := i + 1 - s.pulled.size
  let s := s.pull missing
  (s.pulled[i]?, s)

instance [Supply ι σ] : Source (Stream ι σ) σ where
  symbolAt := symbolAt
  bound s := s.pulled.size + Supply.bound s.supply

def inspect (s : Stream ι σ) : String :=
  "StreamSource \x7b pulled: " ++ toString s.pulled.size ++ ", ended: " ++ toString s.ended ++
    " \x7d"

end Stream

end PredictiveParsing
