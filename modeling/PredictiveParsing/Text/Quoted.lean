import PredictiveParsing.Unicode.Property

/-!
# Quoted characters and texts

How messages write a character or a text so that it can be read whatever it holds:
in quotes, with short escapes for the usual controls, the backslash and the enclosing
quote, and the code point for whatever would not show or would join the character
before it.
-/

namespace PredictiveParsing.Text

/-- The characters written by their code point: those without a shape, the space apart,
and those that extend the character before them. -/
def needsCode : CharSet :=
  (Unicode.unprintable.diff (.singleton ' ')).union Unicode.graphemeExtend

def escaped (quote c : Char) : String :=
  if c = '\x00' then "\\0"
  else if c = '\t' then "\\t"
  else if c = '\r' then "\\r"
  else if c = '\n' then "\\n"
  else if c = '\\' then "\\\\"
  else if c = quote then "\\" ++ quote.toString
  else if ' ' ≤ c ∧ c ≤ '~' then c.toString
  else if needsCode.contains c then
    "\\u\x7b" ++ String.ofList (Nat.toDigits 16 c.toNat) ++ "\x7d"
  else c.toString

def quoteChar (c : Char) : String := "'" ++ escaped '\'' c ++ "'"

def quoteString (s : String) : String :=
  "\"" ++ s.foldl (fun acc c => acc ++ escaped '"' c) "" ++ "\""

end PredictiveParsing.Text
