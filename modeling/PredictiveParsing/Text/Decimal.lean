/-!
# Decimal numbers

The value of decimal digits, and the double that is nearest to a decimal number. The
double is found in exact arithmetic: of the doubles next to the number the nearer one,
and of two at the same distance the one with an even last bit; a number beyond the
greatest double becomes an infinity.
-/

namespace PredictiveParsing.Text.Decimal

def digitValue (c : Char) : Nat := if c.isDigit then c.toNat - '0'.toNat else 0

def value (digits : List Char) : Nat :=
  digits.foldl (fun n c => 10 * n + digitValue c) 0

/-- The quotient of two numbers, rounded to the nearest integer, a half to the even one. -/
def roundDiv (num den : Nat) : Nat :=
  let q := num / den
  let r := num % den
  if 2 * r < den then q
  else if den < 2 * r then q + 1
  else if q % 2 = 0 then q else q + 1

/-- The greatest `k` with `2 ^ k ≤ num / den`. -/
def floorLog2 (num den : Nat) : Int :=
  let k : Int := num.log2 - den.log2
  let reached := if 0 ≤ k then den <<< k.toNat ≤ num else den ≤ num <<< (-k).toNat
  if reached then k else k - 1

def infinityBits : Nat := 0x7FF <<< 52

/-- The bits of the double nearest to the quotient of two positive numbers. A double is a multiple
of `2 ^ q` below `2 ^ (q + 53)`, and `q` is at least -1074. -/
def nearestBits (num den : Nat) : Nat :=
  let q := max (-1074) (floorLog2 num den - 52)
  let significand :=
    if 0 ≤ q then roundDiv num (den <<< q.toNat) else roundDiv (num <<< (-q).toNat) den
  min (((q + 1074).toNat <<< 52) + significand) infinityBits

/-- The bits of the double nearest to `m * 10 ^ e`. Exponents so far out that the answer is plain
are answered without computing the power. -/
def magnitudeBits (m : Nat) (e : Int) : Nat :=
  if m = 0 then 0
  else if 400 < e then infinityBits
  else if 0 ≤ e then nearestBits (m * Nat.pow 10 e.toNat) 1
  else if (m.log2 : Int) + 1 + 3 * e < -1080 then 0
  else nearestBits m (Nat.pow 10 (-e).toNat)

/-- A decimal number as it is written: a sign, digits before and after the point, and a power of
ten. -/
structure Written where
  negative : Bool := false
  whole : List Char
  fraction : List Char := []
  exponent : Int := 0
deriving DecidableEq, Repr

/-- The double nearest to a decimal number. Zero keeps its sign. -/
def Written.toFloat (w : Written) : Float :=
  let bits := magnitudeBits (value (w.whole ++ w.fraction)) (w.exponent - w.fraction.length)
  Float.ofBits (UInt64.ofNat (if w.negative then (1 <<< 63) + bits else bits))

/-! ### Texts of numbers -/

def splitSign : List Char → Bool × List Char
  | '-' :: cs => (true, cs)
  | '+' :: cs => (false, cs)
  | cs => (false, cs)

def splitDigits (cs : List Char) : List Char × List Char :=
  (cs.takeWhile Char.isDigit, cs.dropWhile Char.isDigit)

def splitFraction : List Char → List Char × List Char
  | '.' :: cs => splitDigits cs
  | cs => ([], cs)

def readExponent? : List Char → Option Int
  | [] => some 0
  | e :: cs =>
    let (negative, ds) := splitSign cs
    if (e == 'e' || e == 'E') && !ds.isEmpty && ds.all Char.isDigit then
      some (if negative then -value ds else value ds)
    else none

/-- Reads a text as a number: digits on one side of a point at least, with a sign in front and an
exponent behind them. The words for infinities and for what is no number are not among them. -/
def Written.ofText? (text : List Char) : Option Written :=
  let (negative, cs) := splitSign text
  let (whole, cs) := splitDigits cs
  let (fraction, cs) := splitFraction cs
  if whole.isEmpty && fraction.isEmpty then none
  else (readExponent? cs).map fun exponent => { negative, whole, fraction, exponent }

def textOf (sign : Option Char) (whole : List Char) (fraction : Option (List Char))
    (exponent : Option (Option Char × List Char)) : List Char :=
  sign.toList ++ whole ++ (fraction.elim [] ('.' :: ·)) ++
    exponent.elim [] fun (sign, digits) => 'e' :: (sign.toList ++ digits)

def toFloat? (message : String) (text : List Char) : Except String Float :=
  match Written.ofText? text with
  | some w => .ok w.toFloat
  | none => .error message

end PredictiveParsing.Text.Decimal
