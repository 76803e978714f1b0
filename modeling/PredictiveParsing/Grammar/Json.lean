import PredictiveParsing.Session
import PredictiveParsing.Text.Parsers

/-!
# JSON

A grammar of JSON texts. White space is skipped in front of the text and behind each of its
tokens. The members of an object keep their order, and a name may come back.
-/

namespace PredictiveParsing

inductive Json where
  | null
  | bool (b : Bool)
  | number (n : Float)
  | str (s : String)
  | array (items : List Json)
  | object (members : List (String × Json))
deriving Inhabited

namespace Json

open Text (chr digits)

variable {ρ : Nat → Type} {α : Type}

/-- A token, with the white space behind it. -/
def token (p : Parser Char ρ α) : Parser Char ρ α := p.andL Text.skipWs

def punctuation (c : Char) : Parser Char ρ Char := token (chr c)

/-! ### Numbers -/

/-- The parts of a number as they are written: a sign and digits, a fraction, an exponent. -/
def numberParts :
    Parser Char ρ (((Option Char × List Char) × Option (List Char)) ×
      Option (Option Char × List Char)) :=
  let whole := (chr '-').optional.and digits
  let fraction := ((chr '.').andR digits).optional
  let exponent :=
    ((((chr 'e').or (chr 'E')).andR ((chr '+').or (chr '-')).optional).and digits).optional
  (whole.and fraction).and exponent

def numberLiteral : Parser Char ρ Float :=
  numberParts.tryMap fun (((minus, whole), fraction), exponent) =>
    Text.Decimal.toFloat? "invalid number" (Text.Decimal.textOf minus whole fraction exponent)

/-! ### Strings -/

def hex : Parser Char ρ Nat :=
  (Parser.symbolWhere "hex digit" fun c =>
    c.isDigit || ('a' ≤ c && c ≤ 'f') || ('A' ≤ c && c ≤ 'F')).map CharSet.hexDigitValue

/-- The character with a code point, unless it is a surrogate. -/
def ofCode? (code : Nat) : Except String Char :=
  if code.isValidChar then .ok (Char.ofNat code) else .error "invalid code point"

def escape : Parser Char ρ Char :=
  let simple := Parser.choice
    [.valueAs '"' '"', .valueAs '\\' '\\', .valueAs '/' '/', .valueAs 'b' '\x08',
      .valueAs 'f' '\x0c', .valueAs 'n' '\n', .valueAs 'r' '\r', .valueAs 't' '\t']
  let unicode := ((chr 'u').andR (hex.replicate 4)).tryMap fun ds =>
    ofCode? (ds.foldl (fun n d => 16 * n + d) 0)
  (chr '\\').andR (simple.or unicode)

def plain : Parser Char ρ Char :=
  .symbolWhere "string character" fun c =>
    c != '"' && c != '\\' && !Unicode.control.contains c

def stringLiteral : Parser Char ρ String :=
  (Parser.between (chr '"') (chr '"') (plain.or escape).many).map String.ofList

/-! ### Values -/

/-- A value, over the parser that stands for values. -/
def valueBody (value : Parser Char ρ Json) : Parser Char ρ Json :=
  let array :=
    (Parser.between (punctuation '[') (punctuation ']') (value.sepBy (punctuation ','))).map
      Json.array
  let member := ((token stringLiteral).andL (punctuation ':')).and value
  let object :=
    (Parser.between (punctuation '\x7b') (punctuation '\x7d') (member.sepBy (punctuation ','))).map
      Json.object
  Parser.choice
    [(token (Text.string "null")).constant .null,
      (token (Text.string "true")).constant (.bool true),
      (token (Text.string "false")).constant (.bool false),
      (token numberLiteral).map .number,
      (token stringLiteral).map .str,
      array,
      object]

/-- The rules of the grammar: rule 0 is a value. -/
def rules : Rules Char fun _ => Json where
  size := 1
  body
    | 0 => some (valueBody (.rule 0))
    | _ => none

def json : Parser Char (fun _ => Json) Json := Text.skipWs.andR (.rule 0)

def read (text : String) : Parsed Json := parseText rules json text

end Json

end PredictiveParsing
