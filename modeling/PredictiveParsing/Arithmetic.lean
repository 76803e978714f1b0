/-!
# Wrapping arithmetic

The operations on 64-bit integers that calculators use and that have no instance of their
own. They wrap around, and where an operation has no result a fixed number stands for it.
-/

namespace PredictiveParsing.Arithmetic

def power (a : Int64) (n : Nat) : Int64 :=
  if n = 0 then 1
  else if n % 2 = 1 then a * power (a * a) (n / 2)
  else power (a * a) (n / 2)
termination_by n
decreasing_by all_goals omega

/-- A power with an exponent of 32 bits; any other exponent counts as zero. -/
def powerOrOne (a b : Int64) : Int64 :=
  power a (if 0 ≤ b.toInt ∧ b.toInt < UInt32.size then b.toInt.toNat else 0)

/-- The quotient, rounded toward zero, or zero where it does not exist or does not fit. -/
def quotientOrZero (a b : Int64) : Int64 :=
  if b = 0 ∨ (a = Int64.minValue ∧ b = -1) then 0 else a / b

end PredictiveParsing.Arithmetic
