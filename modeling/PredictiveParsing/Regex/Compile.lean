import PredictiveParsing.Regex.Derivative
import PredictiveParsing.Regex.Meaning
import PredictiveParsing.Regex.Pattern

/-!
# Compiling patterns

`Regex.compile` is one way to make automata of patterns: a pattern is read into a tree, the
tree means an expression, and the automaton goes through the derivatives of the expression.
It takes the place where it begins for the beginning of the text, and all matches count,
however the pattern prefers its alternatives.
-/

namespace PredictiveParsing.Regex

/-- The expression that a pattern means, or why it cannot be matched. -/
def ofPattern (pattern : String) : Except String Regex :=
  match (Ast.ofPattern? pattern).bind fun ast => ast.regex? {} with
  | none => .error "error building NFA"
  | some (r, _) =>
    if r.hasUnicodeWord then
      .error <| "unsupported regex feature for DFAs: cannot build DFAs for regexes with Unicode " ++
        "word boundaries; switch to ASCII word boundaries, or heuristically enable Unicode word " ++
        "boundaries or use a different regex engine"
    else .ok r

def compile (pattern : String) : Except String Automaton := (ofPattern pattern).map automaton

end PredictiveParsing.Regex
