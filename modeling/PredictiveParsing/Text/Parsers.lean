import PredictiveParsing.Parser
import PredictiveParsing.Text.Decimal

/-!
# Parsers of text

Characters by class, fixed texts, and numbers. Integers are refused when they do not fit
in 64 bits; a refused number is a failure where the number began, sign included.
-/

namespace PredictiveParsing.Text

variable {ρ : Nat → Type}

/-! ### Characters -/

def anyChar : Parser Char ρ Char := Parser.any.label "any character"

def chr (c : Char) : Parser Char ρ Char := .value c

def alpha : Parser Char ρ Char := .symbolWhere "letter" Unicode.alphabetic.contains

def digit : Parser Char ρ Char := .symbolWhere "digit" Char.isDigit

def alphaNum : Parser Char ρ Char :=
  .symbolWhere "letter or digit" fun c => Unicode.alphabetic.contains c || Unicode.numeric.contains c

def ws : Parser Char ρ Char := .symbolWhere "whitespace" Unicode.whiteSpace.contains

def skipWs : Parser Char ρ Unit := ws.skipMany

/-! ### Texts -/

/-- A given text, all of it or nothing. The empty text is refused. -/
def string (s : String) : Parser Char ρ String :=
  match s.toList with
  | [] => .fail none
  | first :: rest => (Parser.literal (quoteString s) first rest).map String.ofList

/-! ### Numbers -/

def digits : Parser Char ρ (List Char) := digit.many1

def sign : Parser Char ρ (Option Char) := ((chr '+').or (chr '-')).optional

def toUnsigned? (digits : List Char) : Except String UInt64 :=
  let n := Decimal.value digits
  if n < UInt64.size then .ok (UInt64.ofNat n) else .error "integer out of range"

def toSigned? (sign : Option Char) (digits : List Char) : Except String Int64 :=
  let n : Int := Decimal.value digits
  let n := if sign = some '-' then -n else n
  if Int64.minValue.toInt ≤ n ∧ n ≤ Int64.maxValue.toInt then .ok (Int64.ofInt n)
  else .error "integer out of range"

def uint : Parser Char ρ UInt64 := digits.tryMap toUnsigned?

def int : Parser Char ρ Int64 := (sign.and digits).tryMap fun (sign, ds) => toSigned? sign ds

/-- Digits read as if they stood behind a decimal point. -/
def floating : Parser Char ρ Float :=
  digits.tryMap fun ds =>
    Decimal.toFloat? "invalid fraction" (Decimal.textOf none ['0'] (some ds) none)

def dble : Parser Char ρ Float :=
  ((sign.and digits).and ((chr '.').andR digits).optional).tryMap fun ((sign, whole), fraction) =>
    Decimal.toFloat? "invalid number" <|
      Decimal.textOf (some (sign.getD '+')) whole (some (fraction.getD ['0'])) none

end PredictiveParsing.Text
