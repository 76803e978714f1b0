/-!
# Misuse of a grammar

A grammar can be built in ways that no input can make sense of: a rule that begins
with itself, a rule without a definition, a repetition that could go round without
reading anything. None of these is a failure of an input. A parser that meets one
stops for good and says which one it was.
-/

namespace PredictiveParsing

inductive Property where
  /-- Whether it can succeed without reading a symbol. -/
  | acceptsEmpty
  /-- The symbols it can begin on. -/
  | firstSet
deriving BEq, DecidableEq, Repr

def Property.name : Property → String
  | .acceptsEmpty => "accepts_empty"
  | .firstSet => "first_set"

/-- The repetitions that need a parser which reads something. -/
inductive Repetition where
  | many
  | many1
  | skipMany
  | between
  | manyTill
deriving BEq, DecidableEq, Repr

def Repetition.name : Repetition → String
  | .many => "many"
  | .many1 => "many1"
  | .skipMany => "skip_many"
  | .between => "repeat_between"
  | .manyTill => "many_till"

inductive Misuse where
  /-- A property of a rule depends on itself. -/
  | leftRecursion (property : Property)
  /-- A rule was used before it had a definition. -/
  | unassignedRule
  /-- A rule was defined a second time. -/
  | reassignedRule
  /-- A repeated parser can succeed without reading. -/
  | emptyRepetition (repetition : Repetition)
  /-- The operator and the operand of a chain can both succeed without reading. -/
  | emptyChain
  /-- The least number of repetitions is above the greatest. -/
  | crossedBounds (min max : Nat)
deriving BEq, DecidableEq, Repr

def Misuse.message : Misuse → String
  | .leftRecursion property =>
    "left-recursive grammar: " ++ property.name ++ " of a parser depends on itself"
  | .unassignedRule => "uninitialized parser: a `Ref` was used before being assigned"
  | .reassignedRule => "a `Ref` can only be assigned once"
  | .emptyRepetition repetition =>
    repetition.name ++ " of a parser that accepts empty input would never terminate"
  | .emptyChain =>
    "chain of an operator and an operand that both accept empty input would never terminate"
  | .crossedBounds min max => s!"repeat_between with min {min} > max {max}"

end PredictiveParsing
