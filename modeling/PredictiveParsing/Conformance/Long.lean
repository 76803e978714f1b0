import PredictiveParsing.Conformance.Laws

/-!
# Long texts

Trials of texts that can be as long and as deeply nested as one likes. They would use up a stack,
were repetition not a loop.
-/

namespace PredictiveParsing.Conformance

open Calculator (calculator digit letter)
open Conformance.Trial (measures)

def copies (n : Nat) (s : String) : String := String.join (List.replicate n s)

def words : Parser (List (List Char)) := (letter.many1.andL (symbol ' ')).many

/-- Texts of about this length. -/
def ofLength (length : Nat) : List Trial :=
  [measures digit.many (·.foldl (· + ·) 0) (copies length "7") (.ok (Int64.ofNat (7 * length))),
    measures calculator id (copies (length / 2) "1+" ++ "1") (.ok (Int64.ofNat (length / 2 + 1))),
    measures words List.length (copies (length / 3) "ab ") (.ok (length / 3))]

def nested (depth : Nat) : Trial :=
  measures calculator id (copies depth "(" ++ "1" ++ copies depth ")") (.ok 1)

/-- A number in this many parentheses of which the last one is missing. -/
def unbalanced (depth : Nat) : Trial :=
  measures calculator id (copies depth "(" ++ "1" ++ copies (depth - 1) ")")
    (ended (2 * depth) "')'")

def longTexts : List Trial := ofLength 65536 ++ [nested 100, unbalanced 100]

end PredictiveParsing.Conformance
