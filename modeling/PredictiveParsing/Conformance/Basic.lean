import PredictiveParsing.Grammar.Calculator
import PredictiveParsing.Text.Edit
import PredictiveParsing.Workbench.Backing

/-!
# Trials

A trial holds what a parser makes of a text against what is expected. It is kept as data and
run in a setting, which says where the text comes from and how it is edited on the way. Its
report is the mismatch, if there is one, with both sides written out. A suite is a list of
trials, and its report that of the first one that fails.

The parsers of all trials are over the rules of the calculator, the only ones a trial
needs.
-/

namespace PredictiveParsing.Conformance

open Text (Edit quoteChar quoteString)
open Workbench (Backing)

/-! ### Writing results out -/

class Inspect (α : Type) where
  inspect : α → String

export Inspect (inspect)

variable {α β : Type}

instance : Inspect Unit := ⟨fun _ => "()"⟩

instance : Inspect Bool := ⟨toString⟩

instance : Inspect Nat := ⟨toString⟩

instance : Inspect Int64 := ⟨fun n => toString n.toInt⟩

instance : Inspect Char := ⟨quoteChar⟩

instance : Inspect String := ⟨quoteString⟩

instance [Inspect α] [Inspect β] : Inspect (α × β) where
  inspect | (a, b) => "(" ++ inspect a ++ ", " ++ inspect b ++ ")"

instance [Inspect α] : Inspect (Option α) where
  inspect
    | none => "None"
    | some a => "Some(" ++ inspect a ++ ")"

instance [Inspect α] : Inspect (List α) where
  inspect as := "[" ++ ", ".intercalate (as.map inspect) ++ "]"

instance [Inspect α] : Inspect (Except ParseError α) where
  inspect
    | .ok a => "Ok(" ++ inspect a ++ ")"
    | .error e => "Err(" ++ e.inspect ++ ")"

instance [Inspect α] : Inspect (Except Misuse α) where
  inspect
    | .ok a => inspect a
    | .error m => m.message

instance [Inspect α] : Inspect (Parsed α) where
  inspect
    | .ok result => inspect result
    | .error (.misuse m) => m.message
    | .error .exhausted => "exhausted"

instance exceptBEq {ε : Type} [BEq ε] [BEq α] : BEq (Except ε α) where
  beq
    | .ok a, .ok b => a == b
    | .error d, .error e => d == e
    | _, _ => false

instance exceptReflBEq {ε : Type} [BEq ε] [ReflBEq ε] [BEq α] [ReflBEq α] :
    ReflBEq (Except ε α) where
  rfl {result} := by
    cases result with
    | ok a => exact beq_self_eq_true a
    | error e => exact beq_self_eq_true e

/-! ### Trials -/

/-- How texts reach a parser. -/
structure Setting where
  backing : Backing
  edit : Edit

/-- Two sides that should be equal and are not. -/
structure Mismatch where
  about : String
  left : String
  right : String
deriving BEq, DecidableEq

abbrev Parser (α : Type) := PredictiveParsing.Parser Char (fun _ => Int64) α

inductive Trial : Type 1 where
  /-- A parser makes this of the whole of a text. -/
  | parses {α : Type} [BEq α] [Inspect α] (p : Parser α) (text : String)
      (expected : Except ParseError α)
  /-- A parser makes this of the beginning of a text. -/
  | applies {α : Type} [BEq α] [Inspect α] (p : Parser α) (text : String)
      (expected : Except ParseError (α × Nat))
  /-- Something of what a parser makes of a long text, which is not shown. -/
  | measures {α β : Type} [BEq α] [Inspect α] (p : Parser β) (measure : β → α) (text : String)
      (expected : Except ParseError α)
  /-- Two parsers make the same of the whole of a text. -/
  | agree {α : Type} [BEq α] [Inspect α] (p q : Parser α) (text : String)
  /-- Two sides are equal in every setting. -/
  | equal {α : Type} [BEq α] [Inspect α] (left right : α)

namespace Setting

def parse (s : Setting) (p : Parser α) (text : String) : Parsed α :=
  s.backing.parse Calculator.rules p (s.edit.apply text)

def apply (s : Setting) (p : Parser α) (text : String) : Parsed (α × Nat) :=
  s.backing.apply Calculator.rules p (s.edit.apply text)

end Setting

def mismatch? [BEq α] [Inspect α] (about : String) (left right : α) : Option Mismatch :=
  if left == right then none else some ⟨about, inspect left, inspect right⟩

/-- The mismatch of a trial in a setting. Parsers that stop short do not agree with any other. -/
def Trial.run (s : Setting) : Trial → Option Mismatch
  | parses p text expected =>
    mismatch? ("parsing " ++ quoteString text) (s.parse p text) (.ok expected)
  | applies p text expected =>
    mismatch? ("applying to " ++ quoteString text) (s.apply p text) (.ok expected)
  | measures p measure text expected =>
    mismatch? "" ((s.parse p text).map (·.map measure)) (.ok expected)
  | agree p q text =>
    let about := "parsing " ++ quoteString text
    match s.parse p text, s.parse q text with
    | .ok left, .ok right => mismatch? about left right
    | left, right => some ⟨about, inspect left, inspect right⟩
  | equal left right => mismatch? "" left right

def firstMismatch? (trials : List Trial) (setting : Setting) : Option Mismatch :=
  trials.findSome? fun trial => trial.run setting

end PredictiveParsing.Conformance
