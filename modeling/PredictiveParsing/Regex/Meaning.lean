import PredictiveParsing.Regex.Basic
import PredictiveParsing.Regex.Syntax
import PredictiveParsing.Unicode.Age
import PredictiveParsing.Unicode.CaseFolding
import PredictiveParsing.Unicode.Names
import PredictiveParsing.Unicode.Property
import PredictiveParsing.Unicode.Script
import PredictiveParsing.Unicode.Segmentation

/-!
# The meaning of patterns

From the tree of a pattern to a regular expression. Flags take effect from where they
stand to the end of the group around them, branches included.

With the flag `unicode`, classes hold characters of all scripts; without it they hold
characters of the basic alphabet, and a class that would hold bytes beyond it — a negated
one, the dot — has no meaning, because it could match a part of a character.
-/

namespace PredictiveParsing.Regex

/-! ### Properties -/

/-- A name as it is looked up: in lower case, without blanks, underscores, hyphens and a leading
`is`. The abbreviation `isc` is a name of its own and not short for `c`. -/
def plainName (name : String) : String :=
  let chars := name.toList
  let withoutIs :=
    match chars with
    | i :: s :: rest => if (i == 'i' || i == 'I') && (s == 's' || s == 'S') then rest else chars
    | _ => chars
  let kept := (withoutIs.filter fun c =>
    c != ' ' && c != '_' && c != '-' && c.toNat < 0x80).map Char.toLower
  if withoutIs.length < chars.length && kept == ['c'] then "isc" else String.ofList kept

def categoryGroups : List (String × List String) :=
  [("C", ["Cc", "Cf", "Co"]),
    ("L", ["Lu", "Ll", "Lt", "Lm", "Lo"]),
    ("LC", ["Lu", "Ll", "Lt"]),
    ("M", ["Mn", "Mc", "Me"]),
    ("N", ["Nd", "Nl", "No"]),
    ("P", ["Pc", "Pd", "Ps", "Pe", "Pi", "Pf", "Po"]),
    ("S", ["Sm", "Sc", "Sk", "So"]),
    ("Z", ["Zs", "Zl", "Zp"])]

def categorySet? (name : String) : Option CharSet :=
  match name with
  | "any" => some .full
  | "assigned" => some Unicode.unassigned.complement
  | "ascii" => some (.ofRuns [(0, 0x7F)])
  | _ =>
    (Unicode.categoryNames.lookup name).map fun short =>
      match short with
      | "Cn" => Unicode.unassigned
      | "C" =>
        .ofRuns ((Unicode.categoryUnion ["Cc", "Cf", "Co"]).runs ++ Unicode.unassigned.runs)
      | _ => Unicode.categoryUnion ((categoryGroups.lookup short).getD [short])

def setByName? (names : List (String × String)) (table : List (String × CharSet)) (name : String) :
    Option CharSet :=
  (names.lookup name).bind fun key => table.lookup key

def scriptSet? (table : List (String × CharSet)) (name : String) : Option CharSet :=
  setByName? Unicode.scriptNames table name

/-- The characters that a property asks for. A bare name is a binary property, a category or a
script, in this order. -/
def PropertyQuery.set? : PropertyQuery → Option CharSet
  | .named name =>
    let name := plainName name
    match Unicode.propertyNames.lookup name with
    | some property => some (Unicode.property property)
    | none =>
      match categorySet? name with
      | some set => some set
      | none => scriptSet? Unicode.scripts name
  | .byValue name value =>
    match plainName name with
    | "generalcategory" | "gc" => categorySet? (plainName value)
    | "script" | "sc" => scriptSet? Unicode.scripts (plainName value)
    | "scriptextensions" | "scx" => scriptSet? Unicode.scriptExtensions (plainName value)
    | "age" => Unicode.inVersion? (plainName value)
    | "graphemeclusterbreak" | "gcb" =>
      setByName? Unicode.graphemeBreakNames Unicode.graphemeBreaks (plainName value)
    | "wordbreak" | "wb" => setByName? Unicode.wordBreakNames Unicode.wordBreaks (plainName value)
    | "sentencebreak" | "sb" =>
      setByName? Unicode.sentenceBreakNames Unicode.sentenceBreaks (plainName value)
    | _ => none

/-! ### Flags and classes -/

structure Flags where
  ignoreCase : Bool := false
  multiLine : Bool := false
  dotMatchesAll : Bool := false
  crlf : Bool := false
  unicode : Bool := true
deriving BEq, DecidableEq, Repr

def Flags.change (f : Flags) (change : FlagChange) : Flags where
  ignoreCase := change.apply .ignoreCase f.ignoreCase
  multiLine := change.apply .multiLine f.multiLine
  dotMatchesAll := change.apply .dotMatchesAll f.dotMatchesAll
  crlf := change.apply .crlf f.crlf
  unicode := change.apply .unicode f.unicode

def asciiCaseClosure (s : CharSet) : CharSet :=
  let letters := s.inter (.ofRuns [(0x41, 0x5A), (0x61, 0x7A)])
  .ofRuns (s.runs ++ letters.runs.flatMap fun (lo, hi) =>
    (List.range (hi - lo + 1)).map fun i => (Nat.xor (lo + i) 0x20, Nat.xor (lo + i) 0x20))

def Flags.fold (f : Flags) (s : CharSet) : CharSet :=
  if f.ignoreCase then (if f.unicode then Unicode.caseClosure s else asciiCaseClosure s) else s

/-- A set or its complement. Without `unicode` a complement would hold parts of characters. -/
def Flags.negate? (f : Flags) (negated : Bool) (s : CharSet) : Option CharSet :=
  if negated then (if f.unicode then some s.complement else none) else some s

def wordSet : CharSet :=
  .ofRuns (Unicode.alphabetic.runs ++
    (Unicode.categoryUnion ["Mn", "Mc", "Me", "Nd", "Pc"]).runs ++
      (Unicode.property "Join_Control").runs)

def PerlClass.set (unicode : Bool) : PerlClass → CharSet
  | .digit => if unicode then Unicode.category "Nd" else .ofRuns [(0x30, 0x39)]
  | .space => if unicode then Unicode.whiteSpace else .ofRuns [(0x09, 0x0D), (0x20, 0x20)]
  | .word =>
    if unicode then wordSet
    else .ofRuns [(0x30, 0x39), (0x41, 0x5A), (0x5F, 0x5F), (0x61, 0x7A)]

/-- The character of a literal. Without `unicode` a byte beyond the basic alphabet is none. -/
def Flags.char? (f : Flags) (l : Literal) : Option Char :=
  if !f.unicode && l.byte && 0x7F < l.char.toNat then none else some l.char

def Flags.classChar? (f : Flags) (l : Literal) : Option Char :=
  if !f.unicode && 0x7F < l.char.toNat then none else some l.char

def Flags.propertySet? (f : Flags) (negated : Bool) (query : PropertyQuery) : Option CharSet :=
  if f.unicode then (query.set?).bind fun set => f.negate? negated (f.fold set) else none

mutual

def ClassTree.set? (f : Flags) : ClassTree → Option CharSet
  | .literal l => (f.classChar? l).map .singleton
  | .range lo hi => do return .range (← f.classChar? lo) (← f.classChar? hi)
  | .posix negated set => f.negate? negated (f.fold set)
  | .property negated query => f.propertySet? negated query
  | .perl negated cls => f.negate? negated (cls.set f.unicode)
  | .bracket negated inner => do f.negate? negated (f.fold (← inner.set? f))
  | .union parts => ClassTree.unionSet? f parts
  | .op kind left right => do
    let left := f.fold (← left.set? f)
    let right := f.fold (← right.set? f)
    match kind with
    | .intersection => return left.inter right
    | .difference => return left.diff right
    | .symmetricDifference => return left.symmDiff right

def ClassTree.unionSet? (f : Flags) : List ClassTree → Option CharSet
  | [] => some .empty
  | part :: parts => do return (← part.set? f).union (← ClassTree.unionSet? f parts)

end

/-! ### Patterns -/

def Assertion.look (f : Flags) : Assertion → Look
  | .caret => if f.multiLine then .lineStart f.crlf else .textStart
  | .dollar => if f.multiLine then .lineEnd f.crlf else .textEnd
  | .textStart => .textStart
  | .textEnd => .textEnd
  | .wordBoundary => if f.unicode then .unicodeWord else .wordBoundary
  | .notWordBoundary => if f.unicode then .unicodeWord else .notWordBoundary
  | .wordStart => if f.unicode then .unicodeWord else .wordStart
  | .wordEnd => if f.unicode then .unicodeWord else .wordEnd
  | .wordStartHalf => if f.unicode then .unicodeWord else .wordStartHalf
  | .wordEndHalf => if f.unicode then .unicodeWord else .wordEndHalf

def Flags.dot? (f : Flags) : Option CharSet :=
  if !f.unicode then none
  else if f.dotMatchesAll then some .full
  else if f.crlf then some (CharSet.ofRuns [(0x0A, 0x0A), (0x0D, 0x0D)]).complement
  else some (CharSet.ofRuns [(0x0A, 0x0A)]).complement

mutual

/-- The expression that a pattern means under some flags, and the flags behind it. -/
def Ast.regex? (f : Flags) : Ast → Option (Regex × Flags)
  | .empty => some (.empty, f)
  | .flags change => some (.empty, f.change change)
  | .literal l => do return (.chars (f.fold (.singleton (← f.char? l))), f)
  | .dot => do return (.chars (← f.dot?), f)
  | .assertion a => some (.look (a.look f), f)
  | .property negated query => do return (.chars (← f.propertySet? negated query), f)
  | .perl negated cls => do return (.chars (← f.negate? negated (cls.set f.unicode)), f)
  | .bracket negated inner => do
    return (.chars (← f.negate? negated (f.fold (← inner.set? f))), f)
  | .repeated min max a => do
    let (r, f) ← a.regex? f
    return (r.between min max, f)
  | .group change a => do
    let (r, _) ← a.regex? (f.change change)
    return (r, f)
  | .alternation branches => do
    let (rs, f) ← Ast.regexes? f branches
    return (Regex.any rs, f)
  | .concat parts => do
    let (rs, f) ← Ast.regexes? f parts
    return (Regex.seq rs, f)

def Ast.regexes? (f : Flags) : List Ast → Option (List Regex × Flags)
  | [] => some ([], f)
  | a :: rest => do
    let (r, f) ← a.regex? f
    let (rs, f) ← Ast.regexes? f rest
    return (r :: rs, f)

end

end PredictiveParsing.Regex
