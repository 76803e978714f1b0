import PredictiveParsing.Session
import PredictiveParsing.Text.Decimal

/-!
# A calculator over tokens

Expressions over doubles, in two steps: a lexer cuts the text into tokens, and a grammar
whose symbols are tokens evaluates them. Positions of its failures count tokens.
-/

namespace PredictiveParsing.TokenCalculator

variable {ρ : Nat → Type}

inductive Token where
  | num (n : Float)
  | plus
  | minus
  | star
  | slash
  | open
  | close
deriving BEq, Inhabited

def Token.name : Token → String
  | .num _ => "Num"
  | .plus => "Plus"
  | .minus => "Minus"
  | .star => "Star"
  | .slash => "Slash"
  | .open => "Open"
  | .close => "Close"

instance : Symbol Token where
  text := Token.name

/-! ### Tokens -/

/-- Why a text has no tokens. Offsets count bytes. -/
inductive LexError where
  | unexpected (c : Char) (offset : Nat)
  | badNumber (offset : Nat)
deriving DecidableEq, Repr

def LexError.describe : LexError → String
  | .unexpected c offset => "unexpected " ++ Text.quoteChar c ++ s!" at {offset}"
  | .badNumber offset => s!"bad number at {offset}: invalid float literal"

def Token.ofChar? : Char → Option Token
  | '+' => some .plus
  | '-' => some .minus
  | '*' => some .star
  | '/' => some .slash
  | '(' => some .open
  | ')' => some .close
  | _ => none

def continuesNumber (c : Char) : Bool := c.isDigit || c == '.'

def lexFrom (offset : Nat) : List Char → Except LexError (List Token)
  | [] => .ok []
  | c :: cs =>
    match Token.ofChar? c with
    | some t => (lexFrom (offset + c.utf8Size) cs).map (t :: ·)
    | none =>
      if Unicode.whiteSpace.contains c then lexFrom (offset + c.utf8Size) cs
      else if c.isDigit then
        let digits := c :: cs.takeWhile continuesNumber
        match Text.Decimal.Written.ofText? digits with
        | some n =>
          (lexFrom (offset + digits.length) (cs.dropWhile continuesNumber)).map
            (.num n.toFloat :: ·)
        | none => .error (.badNumber offset)
      else .error (.unexpected c offset)
termination_by cs => cs.length
decreasing_by
  · exact Nat.lt_succ_self _
  · exact Nat.lt_succ_self _
  · exact Nat.lt_succ_of_le (List.dropWhile_sublist _).length_le

def lex (text : String) : Except LexError (List Token) := lexFrom 0 text.toList

/-! ### Grammar -/

def number : Parser Token ρ Float :=
  (Parser.symbolWhere "number" fun
    | .num _ => true
    | _ => false).map fun
    | .num n => n
    | _ => 0.0 / 0.0

def operator (t : Token) (f : Float → Float → Float) : Parser Token ρ (Float → Float → Float) :=
  .valueAs t f

def factorBody (expr factor : Parser Token ρ Float) : Parser Token ρ Float :=
  (number.or (.between (.value .open) (.value .close) expr)).or
    (((Parser.value .minus).andR factor).map fun n => -n)

def exprBody (factor : Parser Token ρ Float) : Parser Token ρ Float :=
  let term := factor.chainl1 ((operator .star (· * ·)).or (operator .slash (· / ·)))
  term.chainl1 ((operator .plus (· + ·)).or (operator .minus (· - ·)))

/-- The rules of the grammar: rule 0 is an expression, rule 1 a factor. -/
def rules : Rules Token fun _ => Float where
  size := 2
  body
    | 0 => some (exprBody (.rule 1))
    | 1 => some (factorBody (.rule 0) (.rule 1))
    | _ => none

def grammar : Parser Token (fun _ => Float) Float := .rule 0

def evaluate (tokens : List Token) : Parsed Float := parseSymbols rules grammar tokens.toArray

end PredictiveParsing.TokenCalculator
