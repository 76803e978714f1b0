import PredictiveParsing.Conformance.Basic

/-!
# Suites

A suite of single behaviours, from symbols to looking ahead, and one of what a recursive grammar
reports and of the laws that combinators obey. A law relates two parsers that are made from any
others: the neutral elements of alternatives and of sequencing, the mapped identity, the
associativity of alternatives, and a pure function applied. A suite tries it on some texts.
-/

namespace PredictiveParsing.Conformance

open Calculator (calculator digit letter number)
open Conformance.Trial (parses applies equal)

/-! ### Laws -/

/-- Two parsers that should make the same of every text. -/
structure Law (α : Type) where
  left : Parser α
  right : Parser α

namespace Law

variable {α β : Type}

def on [BEq α] [Inspect α] (l : Law α) (texts : List String) : List Trial :=
  texts.map (.agree l.left l.right)

def orFail (p : Parser α) : Law α := ⟨p.or (.fail none), p⟩

def failOr (p : Parser α) : Law α := ⟨.or (.fail none) p, p⟩

def pureAndR (p : Parser α) : Law α := ⟨.andR (.pure ()) p, p⟩

def andLPure (p : Parser α) : Law α := ⟨p.andL (.pure ()), p⟩

def mapId (p : Parser α) : Law α := ⟨p.map id, p⟩

def orAssoc (x y z : Parser α) : Law α := ⟨(x.or y).or z, x.or (y.or z)⟩

def apPure (f : β → α) (p : Parser β) : Law α := ⟨.ap (.pure f) p, p.map f⟩

end Law

/-! ### One behaviour at a time -/

def unexpected {α : Type} (position : Nat) (set : String) : Except ParseError α :=
  .error (.expected position set)

def ended {α : Type} (position : Nat) (set : String) : Except ParseError α :=
  .error (.endOfInput position set)

def rejected {α : Type} (position : Nat) (text : String) : Except ParseError α :=
  .error (.message position text)

def symbol (c : Char) : Parser Char := .value c

def singleSymbols : List Trial :=
  [parses (symbol 'a') "a" (.ok 'a'),
    parses (symbol 'a') "b" (unexpected 0 "'a'"),
    parses (symbol 'a') "" (ended 0 "'a'"),
    parses (symbol 'a') "aa" (rejected 1 "expected end of input"),
    applies (symbol 'a') "aa" (.ok ('a', 1)),
    parses .any "z" (.ok 'z'),
    parses (.any : Parser Char) "" (ended 0 "any symbol"),
    parses letter "Q" (.ok 'Q'),
    parses letter "1" (unexpected 0 "letter"),
    parses (.valueAs 't' true) "t" (.ok true)]

def readingNothing : List Trial :=
  let seven : Parser Int64 := .pure 7
  let failing : Parser Unit := .fail none
  [parses seven "" (.ok 7),
    parses seven "x" (rejected 0 "expected end of input"),
    applies seven "x" (.ok (7, 0)),
    parses .eof "" (.ok ()),
    applies .eof "x" (rejected 0 "expected end of input"),
    parses failing "" (ended 0 "nothing"),
    parses failing "x" (unexpected 0 "nothing"),
    parses (.fail (some "nope") : Parser Unit) "x" (rejected 0 "nope")]

def sequencing : List Trial :=
  let a := symbol 'a'
  let b := symbol 'b'
  let ab := a.and b
  let bracketed : Parser Char := .between (symbol '[') (symbol ']') letter
  let word : Parser (List Char) := .traverse ['l', 'e', 't']
  [parses ab "ab" (.ok ('a', 'b')),
    parses ab "a" (ended 1 "'b'"),
    parses ab "ac" (unexpected 1 "'b'"),
    parses ab "" (ended 0 "'a'"),
    parses (a.andL b) "ab" (.ok 'a'),
    parses (a.andR b) "ab" (.ok 'b'),
    parses bracketed "[x]" (.ok 'x'),
    parses bracketed "[x" (ended 2 "']'"),
    parses bracketed "[1]" (unexpected 1 "letter"),
    parses (.sequenceOf [letter, symbol '-', letter]) "a-b" (.ok ['a', '-', 'b']),
    parses word "let" (.ok ['l', 'e', 't']),
    parses word "lex" (unexpected 2 "'t'"),
    parses (.lift2 (fun x y => x * 10 + y) digit digit) "42" (.ok 42)]

/-- Alternatives, and failures that an alternative recovered from: one that got further than the
failure that ended the parse is reported instead. -/
def alternatives : List Trial :=
  let a := symbol 'a'
  let b := symbol 'b'
  let c := symbol 'c'
  let abc := (a.or b).or c
  let second := (a.andR b).or (a.andR c)
  let maybeAb := (a.and b).optional.and c
  [parses abc "c" (.ok 'c'),
    parses abc "d" (unexpected 0 "'a', 'b' or 'c'"),
    parses abc "" (ended 0 "'a', 'b' or 'c'"),
    parses second "ac" (.ok 'c'),
    parses second "ad" (unexpected 1 "'b' or 'c'"),
    parses (.choice [symbol 'x', symbol 'y']) "y" (.ok 'y'),
    parses a.optional "" (.ok none),
    parses a.optional "a" (.ok (some 'a')),
    parses (a.optional.and b) "b" (.ok (none, 'b')),
    parses (a.label "the letter a") "b" (unexpected 0 "the letter a"),
    parses maybeAb "ax" (unexpected 1 "'b'"),
    applies maybeAb "ax" (unexpected 0 "'c'"),
    parses maybeAb "abc" (.ok (some ('a', 'b'), 'c')),
    parses maybeAb "c" (.ok (none, 'c'))]

def repetition : List Trial :=
  let listed := digit.sepBy (symbol ',')
  let listed1 := digit.sepBy1 (symbol ',')
  let upToDot := (.any : Parser Char).manyTill (symbol '.')
  [parses digit.many "" (.ok []),
    parses digit.many "123" (.ok [1, 2, 3]),
    parses digit.many "12x" (rejected 2 "expected end of input"),
    applies digit.many "12x" (.ok ([1, 2], 2)),
    applies digit.many "x" (.ok ([], 0)),
    parses digit.many1 "" (ended 0 "digit"),
    parses digit.many1 "x" (unexpected 0 "digit"),
    parses listed "1,2,3" (.ok [1, 2, 3]),
    parses listed "" (.ok []),
    parses listed1 "1,2," (ended 4 "digit"),
    parses listed1 "1,x" (unexpected 2 "digit"),
    parses (digit.replicate 3) "123" (.ok [1, 2, 3]),
    parses (digit.replicate 3) "12" (ended 2 "digit"),
    parses (digit.times 1 2) "12" (.ok [1, 2]),
    parses (digit.times 1 2) "123" (rejected 2 "expected end of input"),
    parses ((symbol ' ').skipMany.andR letter) "   q" (.ok 'q'),
    parses upToDot "ab." (.ok ['a', 'b']),
    parses upToDot "ab" (ended 2 "'.'"),
    parses (letter.terminatedBy (symbol ';')) "a;b;" (.ok ['a', 'b']),
    parses (letter.terminatedBy1 (symbol ';')) "a;b" (ended 3 "';'"),
    parses number "1234" (.ok 1234)]

def dependence : List Trial :=
  let counted := digit.flatMap fun n => letter.replicate n.toInt.toNat
  [parses counted "2ab" (.ok ['a', 'b']),
    parses counted "3ab" (ended 3 "letter")]

def lookingAhead : List Trial :=
  let ahead : Parser Char := .lookahead letter
  let noDigit : Parser Char := digit.not.andR .any
  [applies ahead "ab" (.ok ('a', 0)),
    parses (ahead.and letter) "a" (.ok ('a', 'a')),
    parses ahead "1" (unexpected 0 "letter"),
    parses noDigit "x" (.ok 'x'),
    parses noDigit "1" (rejected 0 "unexpected success")]

def behaviors : List Trial :=
  singleSymbols ++ readingNothing ++ sequencing ++ alternatives ++ repetition ++ dependence ++
    lookingAhead

/-! ### A recursive grammar, and the laws -/

def expressions : List Trial :=
  [parses calculator "7" (.ok 7),
    parses calculator "1-2+3" (.ok 2),
    parses calculator "2*(3+4)" (.ok 14),
    parses calculator "2^3^2" (.ok 512),
    parses calculator "-(2-5)*2" (.ok 6),
    parses calculator "100/7/2" (.ok 7),
    parses calculator "((((((1))))))" (.ok 1),
    parses calculator "" (ended 0 "digit, '(' or '-'"),
    parses calculator "1+" (ended 2 "digit, '(' or '-'"),
    parses calculator "2*x" (unexpected 2 "digit, '(' or '-'"),
    parses calculator "(1" (ended 2 "')'"),
    parses calculator "1)" (rejected 1 "expected end of input")]

/-- What the calculator says about itself when it is asked this, from an empty memory. -/
def saidOfCalculator {α : Type}
    (ask : Rules Char (fun _ => Int64) → Parser Int64 → Inquiry (Memory Char) α) :
    Except Misuse α :=
  match ask Calculator.rules calculator {} with
  | .ok a _ => .ok a
  | .error m _ => .error m

def properties : List Trial :=
  [equal ((saidOfCalculator Memory.askFirstSet).map SymbolSet.describe)
      (.ok "digit, '(' or '-'"),
    equal (saidOfCalculator Memory.askAcceptsEmpty) (.ok false)]

def combinatorLaws : List Trial :=
  let a := symbol 'a'
  (Law.orFail a).on ["a", "b", ""] ++
  (Law.failOr a).on ["a", "b", ""] ++
  (Law.pureAndR a).on ["a", "b", ""] ++
  (Law.andLPure a).on ["a", "b", "aa"] ++
  (Law.mapId calculator).on ["1+2", "1+", "", "x"] ++
  (Law.orAssoc (symbol 'x') (symbol 'y') (symbol 'z')).on ["x", "y", "z", "w", ""] ++
  (Law.apPure (· + 1) (number : Parser Int64)).on ["12", "", "a"]

def laws : List Trial := expressions ++ properties ++ combinatorLaws

end PredictiveParsing.Conformance
