import PredictiveParsing.Text.Quoted

/-!
# Symbols

A parser reads a list of symbols: characters, tokens, numbers. All it asks of a
symbol is to be compared with another one and to be written in a message.
-/

namespace PredictiveParsing

/-- A symbol of an input alphabet. `text` is how messages write it; it need not
be injective, and equality of symbols is `==` alone. -/
class Symbol (σ : Type) where
  [toBEq : BEq σ]
  text : σ → String

-- Where a type brings an equality test of its own, that one is meant.
instance (priority := 100) Symbol.instBEq {σ : Type} [Symbol σ] : BEq σ := Symbol.toBEq

instance : Symbol Char where
  text := Text.quoteChar

instance : Symbol String where
  text := Text.quoteString

instance : Symbol Int64 where
  text n := toString n.toInt

end PredictiveParsing
