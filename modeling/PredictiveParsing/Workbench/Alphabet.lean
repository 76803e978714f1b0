import PredictiveParsing.Grammar.Calculator
import PredictiveParsing.Regex.Compile
import PredictiveParsing.Text.Parsers
import PredictiveParsing.Workbench.Form

/-!
# Alphabets of described grammars

The types of symbols that a described grammar can have: characters, numbers and
texts. Each knows its symbols as values, their order, and the parsers that it alone
has. Characters have the parsers of text. These include the calculator, whose
two rules come first in every table of rules over characters.
-/

namespace PredictiveParsing.Workbench

inductive BuildFault where
  | misuse (m : Misuse)
  | pattern (e : PatternError)
  /-- There is no rule or parser of this name. -/
  | unknown (name : String)

/-- The rules of a described grammar all have values of one type. -/
abbrev Uniform : Nat → Type := fun _ => Value

abbrev Described (σ : Type) := Parser σ Uniform Value

class Alphabet (σ : Type) extends Symbol σ where
  toValue : σ → Value
  ofValue? : Value → Option σ
  /-- The order of symbols. -/
  le : σ → σ → Bool
  /-- The parsers that this alphabet alone has. -/
  textParser : TextForm → Except BuildFault (Described σ)
  /-- The rules that those parsers need. -/
  rules : Array (Described σ)

def Test.passes {σ : Type} [Alphabet σ] : Test σ → σ → Bool
  | .always b, _ => b
  | .oneOf symbols, s => symbols.contains s
  | .between lo hi, s => Alphabet.le lo s && Alphabet.le s hi
  | .negated t, s => !t.passes s

def noText {σ : Type} (_ : TextForm) : Except BuildFault (Described σ) :=
  .error (.unknown "text")

/-! ### Characters -/

def calculatorRule (i : Nat) : Parser Char Uniform Int64 :=
  (Parser.rule i : Parser Char Uniform (Uniform i)).map fun
    | .int n => n
    | _ => 0

/-- The rules of the calculator as rules of a described grammar. -/
def calculatorRules : Array (Described Char) :=
  let expr := calculatorRule Calculator.exprRule
  let factor := calculatorRule Calculator.factorRule
  #[(Calculator.exprBody factor).map .int, (Calculator.factorBody expr factor).map .int]

def charParser : TextForm → Except BuildFault (Described Char)
  | .anyChar => .ok (Text.anyChar.map .char)
  | .chr c => .ok ((Text.chr c).map .char)
  | .alpha => .ok (Text.alpha.map .char)
  | .digit => .ok (Text.digit.map .char)
  | .alphaNum => .ok (Text.alphaNum.map .char)
  | .ws => .ok (Text.ws.map .char)
  | .skipWs => .ok (Text.skipWs.map fun _ => .unit)
  | .string s => .ok ((Text.string s).map .str)
  | .uint => .ok (Text.uint.map .uint)
  | .int => .ok (Text.int.map .int)
  | .floating => .ok (Text.floating.map .float)
  | .dble => .ok (Text.dble.map .float)
  | .regex pattern =>
    match Automaton.parser Regex.compile pattern with
    | .ok p => .ok (p.map .str)
    | .error e => .error (.pattern e)
  | .calculator => .ok ((calculatorRule Calculator.exprRule).map .int)
  | .number => .ok (Calculator.number.map .int)
  | .digitValue => .ok (Calculator.digit.map .int)
  | .letter => .ok (Calculator.letter.map .char)

instance : Alphabet Char where
  toValue := .char
  ofValue?
    | .char c => some c
    | _ => none
  le a b := a ≤ b
  textParser := charParser
  rules := calculatorRules

/-! ### Numbers and texts -/

instance : Alphabet Int64 where
  toValue := .int
  ofValue?
    | .int n => some n
    | _ => none
  le a b := a ≤ b
  textParser := noText
  rules := #[]

instance : Alphabet String where
  toValue := .str
  ofValue?
    | .str s => some s
    | _ => none
  le a b := a ≤ b
  textParser := noText
  rules := #[]

end PredictiveParsing.Workbench
