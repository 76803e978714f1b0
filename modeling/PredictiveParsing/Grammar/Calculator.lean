import PredictiveParsing.Arithmetic
import PredictiveParsing.Session

/-!
# A calculator

Expressions over 64-bit integers, evaluated as they are parsed. From weak to strong:
`+` and `-`, then `*` and `/`, both grouped on the left, then `^`, grouped on the right, then
a sign, parentheses and numbers. The arithmetic wraps around; a quotient that does not exist
is zero, and so is an exponent that does not fit in 32 bits.

Two rules are recursive. Their bodies are written over the parsers that stand for them, so
that they fit in any table of rules; `rules` is the table of these two alone.
-/

namespace PredictiveParsing.Calculator

open Arithmetic

variable {ρ : Nat → Type}

/-! ### Words of the grammar -/

def digit : Parser Char ρ Int64 :=
  (Parser.symbolWhere "digit" Char.isDigit).map fun c => Int64.ofNat (c.toNat - '0'.toNat)

/-- Decimal digits, with their value wrapped around. -/
def number : Parser Char ρ Int64 :=
  digit.many1.map fun ds => ds.foldl (fun n d => n * 10 + d) 0

def letter : Parser Char ρ Char := .symbolWhere "letter" Char.isAlpha

def operator (c : Char) (f : Int64 → Int64 → Int64) : Parser Char ρ (Int64 → Int64 → Int64) :=
  .valueAs c f

/-! ### Rules -/

def factorBody (expr factor : Parser Char ρ Int64) : Parser Char ρ Int64 :=
  (number.or (.between (.value '(') (.value ')') expr)).or
    (((Parser.value '-').andR factor).map fun n => -n)

/-- Sums of products of powers of factors. -/
def exprBody (factor : Parser Char ρ Int64) : Parser Char ρ Int64 :=
  let power := factor.chainr1 (operator '^' powerOrOne)
  let term := power.chainl1 ((operator '*' (· * ·)).or (operator '/' quotientOrZero))
  term.chainl1 ((operator '+' (· + ·)).or (operator '-' (· - ·)))

def exprRule : Nat := 0

def factorRule : Nat := 1

def rules : Rules Char fun _ => Int64 where
  size := 2
  body
    | 0 => some (exprBody (.rule factorRule))
    | 1 => some (factorBody (.rule exprRule) (.rule factorRule))
    | _ => none

def calculator : Parser Char (fun _ => Int64) Int64 := .rule exprRule

def evaluate (text : String) : Parsed Int64 := parseText rules calculator text

end PredictiveParsing.Calculator
