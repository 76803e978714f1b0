import PredictiveParsing.Regex.Syntax
import PredictiveParsing.Unicode.Property

/-!
# Reading patterns

From the text of a pattern to its tree. A pattern that breaks a rule anywhere has no
tree: brackets and groups that do not close, quantifiers with nothing before them,
unknown escapes and flags, names given twice, ranges upside down, nesting beyond the
limit.

In verbose parts white space and comments are skipped wherever a piece of the pattern
could begin, and also inside escapes and counts.
-/

namespace PredictiveParsing.Regex

/-- What is left of the pattern, whether white space is skipped there, and the names that groups
have had. -/
structure PatternState where
  rest : List Char
  verbose : Bool := false
  names : List String := []

abbrev ReadPattern (α : Type) := StateT PatternState Option α

namespace ReadPattern

def malformed {α : Type} : ReadPattern α := fun _ => none

def require (b : Bool) : ReadPattern Unit := if b then pure () else malformed

/-! ### Characters -/

def isBlank (c : Char) : Bool := Unicode.whiteSpace.contains c

def afterComment (cs : List Char) : List Char := (cs.dropWhile (· != '\n')).drop 1

theorem length_afterComment_le (cs : List Char) : (afterComment cs).length ≤ cs.length := by
  have := (List.dropWhile_sublist (l := cs) (· != '\n')).length_le
  simp only [afterComment, List.length_drop]
  omega

def afterBlanks : List Char → List Char
  | [] => []
  | c :: cs =>
    if isBlank c then afterBlanks cs
    else if c = '#' then
      have := length_afterComment_le cs
      afterBlanks (afterComment cs)
    else c :: cs
termination_by cs => cs.length
decreasing_by all_goals simp only [List.length_cons]; omega

def skipBlanks : ReadPattern Unit :=
  modify fun s => if s.verbose then { s with rest := afterBlanks s.rest } else s

def peek? : ReadPattern (Option Char) := return (← get).rest.head?

def peek : ReadPattern Char := do
  match ← peek? with
  | some c => return c
  | none => malformed

def advance : ReadPattern Unit := modify fun s => { s with rest := s.rest.drop 1 }

def advanceOverBlanks : ReadPattern Unit := do
  advance
  skipBlanks

def accept (text : String) : ReadPattern Bool := do
  let s ← get
  let expected := text.toList
  if expected.isPrefixOf s.rest then
    set { s with rest := s.rest.drop expected.length }
    return true
  else return false

def acceptAny : List String → ReadPattern Bool
  | [] => return false
  | text :: texts => do
    if ← accept text then return true else acceptAny texts

def expect (c : Char) : ReadPattern Unit := do
  require ((← peek) == c)
  advance

/-- Passes characters for as long as they satisfy a test, each with the blanks behind it. -/
def takeWhile (test : Char → Bool) : Nat → List Char → ReadPattern (List Char)
  | 0, taken => return taken.reverse
  | fuel + 1, taken => do
    match ← peek? with
    | some c =>
      if test c then
        advanceOverBlanks
        takeWhile test fuel (c :: taken)
      else return taken.reverse
    | none => return taken.reverse

def takeAll (test : Char → Bool) : ReadPattern (List Char) := do
  takeWhile test ((← get).rest.length) []

/-! ### Escapes -/

def isHexDigit (c : Char) : Bool :=
  c.isDigit || ('a' ≤ c && c ≤ 'f') || ('A' ≤ c && c ≤ 'F')

def charOfCode (code : Nat) : ReadPattern Char := do
  require (decide code.isValidChar)
  return Char.ofNat code

def hexDigits : Nat → List Char → ReadPattern (List Char)
  | 0, taken => return taken.reverse
  | n + 1, taken => do
    let c ← peek
    require (isHexDigit c)
    advanceOverBlanks
    hexDigits n (c :: taken)

/-- A character by its code point: in braces, or with a fixed number of digits. The letter of the
escape comes next. -/
def hexEscape (digits : Nat) : ReadPattern Literal := do
  advanceOverBlanks
  if (← peek) == '\x7b' then
    advanceOverBlanks
    let code ← takeAll isHexDigit
    require ((← peek) == '\x7d')
    advanceOverBlanks
    require (!code.isEmpty)
    return { char := ← charOfCode (CharSet.hexValue code) }
  else
    let code ← hexDigits digits []
    return { char := ← charOfCode (CharSet.hexValue code), byte := digits == 2 }

def splitAtWord (word : List Char) (before : List Char) :
    List Char → Option (List Char × List Char)
  | [] => none
  | c :: cs =>
    if word.isPrefixOf (c :: cs) then some (before.reverse, (c :: cs).drop word.length)
    else splitAtWord word (c :: before) cs

/-- The property that the text between braces asks for, after whether its absence is asked for: a
name, or a name and a value with `:` or `=` between them for its presence and `!=` for its
absence. -/
def propertyOf (text : List Char) : Bool × PropertyQuery :=
  match splitAtWord ['!', '='] [] text with
  | some (name, value) => (true, .byValue (String.ofList name) (String.ofList value))
  | none =>
    match (splitAtWord [':'] [] text).or (splitAtWord ['='] [] text) with
    | some (name, value) => (false, .byValue (String.ofList name) (String.ofList value))
    | none => (false, .named (String.ofList text))

/-- A property, by one letter or a text in braces: whether its absence is asked for, and which it
is. The letter of the escape comes next. -/
def propertyEscape : ReadPattern (Bool × PropertyQuery) := do
  let negated := (← peek) == 'P'
  advanceOverBlanks
  let c ← peek
  if c == '\x7b' then
    advanceOverBlanks
    let text ← takeAll (· != '\x7d')
    expect '\x7d'
    let (absent, query) := propertyOf text
    return (negated != absent, query)
  else
    require (c != '\\')
    advanceOverBlanks
    return (negated, .named c.toString)

def isBoundaryNameChar (c : Char) : Bool := c.isAlpha || c == '-'

/-- The kind of a word boundary, whose letter has been passed: it may be named in braces. Braces
that hold no name are left to be read as a count. -/
def boundaryKind : ReadPattern Assertion := do
  if (← peek?) != some '\x7b' then return .wordBoundary
  else
    let before ← get
    advanceOverBlanks
    if !isBoundaryNameChar (← peek) then
      set before
      return .wordBoundary
    else
      let name ← takeAll isBoundaryNameChar
      expect '\x7d'
      if name == "start".toList then return .wordStart
      else if name == "end".toList then return .wordEnd
      else if name == "start-half".toList then return .wordStartHalf
      else if name == "end-half".toList then return .wordEndHalf
      else malformed

inductive Primitive where
  | literal (l : Literal)
  | dot
  | assertion (a : Assertion)
  | property (negated : Bool) (query : PropertyQuery)
  | perl (negated : Bool) (cls : PerlClass)

/-- Whether a character may be escaped to stand for itself: any of the basic alphabet but letters,
digits and angle brackets. -/
def isEscapable (c : Char) : Bool :=
  c.toNat < 0x80 && !c.isAlphanum && c != '<' && c != '>'

def escape : ReadPattern Primitive := do
  advance
  let c ← peek
  let one (p : Primitive) : ReadPattern Primitive := do
    advance
    return p
  let char (c : Char) : ReadPattern Primitive := one (.literal { char := c })
  match c with
  | 'x' => return .literal (← hexEscape 2)
  | 'u' => return .literal (← hexEscape 4)
  | 'U' => return .literal (← hexEscape 8)
  | 'p' | 'P' =>
    let (negated, query) ← propertyEscape
    return .property negated query
  | 'd' => one (.perl false .digit)
  | 'D' => one (.perl true .digit)
  | 's' => one (.perl false .space)
  | 'S' => one (.perl true .space)
  | 'w' => one (.perl false .word)
  | 'W' => one (.perl true .word)
  | 'a' => char '\x07'
  | 'f' => char '\x0c'
  | 't' => char '\t'
  | 'n' => char '\n'
  | 'r' => char '\r'
  | 'v' => char '\x0b'
  | 'A' => one (.assertion .textStart)
  | 'z' => one (.assertion .textEnd)
  | 'B' => one (.assertion .notWordBoundary)
  | '<' => one (.assertion .wordStart)
  | '>' => one (.assertion .wordEnd)
  | 'b' =>
    advance
    return .assertion (← boundaryKind)
  | c =>
    require (isEscapable c)
    char c

/-! ### Bracketed classes -/

def posixClasses : List (String × List (Nat × Nat)) :=
  [("alnum", [(0x30, 0x39), (0x41, 0x5A), (0x61, 0x7A)]),
    ("alpha", [(0x41, 0x5A), (0x61, 0x7A)]),
    ("ascii", [(0, 0x7F)]),
    ("blank", [(0x09, 0x09), (0x20, 0x20)]),
    ("cntrl", [(0, 0x1F), (0x7F, 0x7F)]),
    ("digit", [(0x30, 0x39)]),
    ("graph", [(0x21, 0x7E)]),
    ("lower", [(0x61, 0x7A)]),
    ("print", [(0x20, 0x7E)]),
    ("punct", [(0x21, 0x2F), (0x3A, 0x40), (0x5B, 0x60), (0x7B, 0x7E)]),
    ("space", [(0x09, 0x0D), (0x20, 0x20)]),
    ("upper", [(0x41, 0x5A)]),
    ("word", [(0x30, 0x39), (0x41, 0x5A), (0x5F, 0x5F), (0x61, 0x7A)]),
    ("xdigit", [(0x30, 0x39), (0x41, 0x46), (0x61, 0x66)])]

/-- A named class, as `[:name:]`. Where there is none, nothing is passed. -/
def posixClass? : ReadPattern (Option ClassTree) := do
  let before ← get
  if ← accept "[:" then
    let negated ← accept "^"
    let rest := (← get).rest
    let name := rest.takeWhile (· != ':')
    modify fun s => { s with rest := rest.drop name.length }
    if ← accept ":]" then
      if let some runs := posixClasses.lookup (String.ofList name) then
        return some (.posix negated (.ofRuns runs))
  set before
  return none

def classPrimitive : ReadPattern Primitive := do
  let c ← peek
  if c == '\\' then escape
  else
    advance
    return .literal { char := c }

/-- The character behind the next one. In verbose parts white space is passed over and the sign of
a comment, but not the comment. -/
def peekBehind? : ReadPattern (Option Char) := do
  let s ← get
  let rest := s.rest.drop 1
  if s.verbose then
    match rest.dropWhile isBlank with
    | '#' :: rest => return (rest.dropWhile isBlank).head?
    | rest => return rest.head?
  else return rest.head?

def classRange : ReadPattern ClassTree := do
  let first ← classPrimitive
  skipBlanks
  let c ← peek
  let behind ← peekBehind?
  if c != '-' || behind == some ']' || behind == some '-' then
    match first with
    | .literal l => return .literal l
    | .property negated query => return .property negated query
    | .perl negated cls => return .perl negated cls
    | _ => malformed
  else
    advanceOverBlanks
    let _ ← peek
    let second ← classPrimitive
    match first, second with
    | .literal lo, .literal hi =>
      require (lo.char ≤ hi.char)
      return .range lo hi
    | _, _ => malformed

/-- Dashes that stand for themselves at the beginning of a class. -/
def leadingDashes : Nat → List ClassTree → ReadPattern (List ClassTree)
  | 0, items => return items
  | fuel + 1, items => do
    if (← peek) == '-' then
      advanceOverBlanks
      leadingDashes fuel (.literal { char := '-' } :: items)
    else return items

/-- The beginning of a class, whose bracket comes next: whether it is negated, and the items that
stand for themselves there only. -/
def classOpen : ReadPattern (Bool × List ClassTree) := do
  advanceOverBlanks
  let negated := (← peek) == '^'
  if negated then advanceOverBlanks
  let items ← leadingDashes (← get).rest.length []
  if items.isEmpty && (← peek) == ']' then
    advanceOverBlanks
    let _ ← peek
    return (negated, [.literal { char := ']' }])
  else
    let _ ← peek
    return (negated, items)

def classOp? : ReadPattern (Option ClassOp) := do
  if ← accept "&&" then return some .intersection
  else if ← accept "--" then return some .difference
  else if ← accept "~~" then return some .symmetricDifference
  else return none

def closeOperand (pending : Option (ClassOp × ClassTree)) (items : List ClassTree) : ClassTree :=
  let operand := ClassTree.ofParts items.reverse
  match pending with
  | some (op, left) => .op op left operand
  | none => operand

/-- The rest of a class up to and with its closing bracket. `pending` is the operation before the
operand that is being read, and `items` the items of this, last first. -/
def classRest : Nat → Option (ClassOp × ClassTree) → List ClassTree → ReadPattern ClassTree
  | 0, _, _ => malformed
  | fuel + 1, pending, items => do
    skipBlanks
    let c ← peek
    if c == '[' then
      match ← posixClass? with
      | some cls => classRest fuel pending (cls :: items)
      | none =>
        let (negated, opened) ← classOpen
        let inner ← classRest fuel none opened
        classRest fuel pending (.bracket negated inner :: items)
    else if c == ']' then
      advance
      return closeOperand pending items
    else
      match ← classOp? with
      | some op => classRest fuel (some (op, closeOperand pending items)) []
      | none => classRest fuel pending ((← classRange) :: items)

def bracketClass : ReadPattern Ast := do
  let fuel := (← get).rest.length + 1
  let (negated, opened) ← classOpen
  return .bracket negated (← classRest fuel none opened)

/-! ### Quantifiers -/

/-- The last part before a quantifier and the parts before that. A change of flags cannot be
repeated. -/
def popPart : List Ast → ReadPattern (Ast × List Ast)
  | .flags _ :: _ => malformed
  | part :: parts => return (part, parts)
  | [] => malformed

def countLimit : Nat := UInt32.size

def decimal? : ReadPattern (Option Nat) := do
  modify fun s => { s with rest := s.rest.dropWhile isBlank }
  let digits ← takeAll Char.isDigit
  let _ ← takeAll isBlank
  if digits.isEmpty then return none
  else
    let n := digits.foldl (fun n c => 10 * n + (c.toNat - '0'.toNat)) 0
    require (n < countLimit)
    return some n

def decimal : ReadPattern Nat := do
  match ← decimal? with
  | some n => return n
  | none => malformed

def skipLazy : ReadPattern Unit := do
  let _ ← accept "?"
  return ()

def counts : ReadPattern (Nat × Option Nat) := do
  advanceOverBlanks
  let _ ← peek
  let min ← decimal
  let range ← if (← peek) == ',' then do
      advanceOverBlanks
      if (← peek) == '\x7d' then pure (min, none)
      else
        let max ← decimal
        require (min ≤ max)
        pure (min, some max)
    else pure (min, some min)
  require ((← peek) == '\x7d')
  advanceOverBlanks
  skipLazy
  return range

/-! ### Groups -/

def isNameChar (first : Bool) (c : Char) : Bool :=
  c == '_' || Unicode.alphabetic.contains c ||
    (!first && (c == '.' || c == '[' || c == ']' || Unicode.numeric.contains c))

/-- The name of a group, up to and with the bracket behind it. No two groups share one. -/
def groupName : ReadPattern Unit := do
  let rest := (← get).rest
  let name := rest.takeWhile (· != '>')
  modify fun s => { s with rest := rest.drop name.length }
  expect '>'
  match name with
  | [] => malformed
  | c :: cs => require (isNameChar true c && cs.all (isNameChar false))
  let text := String.ofList name
  require (!(← get).names.contains text)
  modify fun s => { s with names := text :: s.names }

/-- The flags of a group up to the colon or parenthesis behind them. `seen` holds the flags so far
and `negated` whether they are being cleared. -/
def flagChange : Nat → (negated dangling : Bool) → List Flag → FlagChange → ReadPattern FlagChange
  | 0, _, _, _, _ => malformed
  | fuel + 1, negated, dangling, seen, change => do
    let c ← peek
    if c == ':' || c == ')' then
      require (!dangling)
      return change
    else if c == '-' then
      require (!negated)
      advance
      flagChange fuel true true seen change
    else
      match Flag.ofChar? c with
      | none => malformed
      | some flag =>
        require (!seen.contains flag)
        advance
        let change :=
          if negated then { change with cleared := flag :: change.cleared }
          else { change with set := flag :: change.set }
        flagChange fuel negated false (flag :: seen) change

inductive GroupOpen where
  /-- Flags for the rest of the group around. -/
  | flags (change : FlagChange)
  /-- A group, with flags for itself. -/
  | group (change : FlagChange)

def groupOpen : ReadPattern GroupOpen := do
  advance
  skipBlanks
  let looksAround ← acceptAny ["?=", "?!", "?<=", "?<!"]
  require (!looksAround)
  if ← acceptAny ["?P<", "?<"] then
    groupName
    return .group {}
  else if ← accept "?" then
    let change ← flagChange ((← get).rest.length + 1) false false [] {}
    if (← peek) == ')' then
      advance
      require (!(change.set.isEmpty && change.cleared.isEmpty))
      return .flags change
    else
      advance
      return .group change
  else return .group {}

/-! ### Patterns -/

def setVerbose (verbose : Bool) : ReadPattern Unit := modify fun s => { s with verbose }

def primitive : ReadPattern Ast := do
  let c ← peek
  let p ← match c with
    | '\\' => escape
    | '.' => do advance; pure .dot
    | '^' => do advance; pure (.assertion .caret)
    | '$' => do advance; pure (.assertion .dollar)
    | c => do advance; pure (.literal { char := c })
  match p with
  | .literal l => return .literal l
  | .dot => return .dot
  | .assertion a => return .assertion a
  | .property negated query => return .property negated query
  | .perl negated cls => return .perl negated cls

/-- Branches up to the end of the pattern or a closing parenthesis, which is left. `done` holds the
branches before the one that is being read, last first, and `parts` the parts of this, last
first. -/
def branches : Nat → (done parts : List Ast) → ReadPattern Ast
  | 0, _, _ => malformed
  | fuel + 1, done, parts => do
    skipBlanks
    let branch := Ast.ofParts parts.reverse
    match ← peek? with
    | none => return .ofBranches (branch :: done).reverse
    | some ')' => return .ofBranches (branch :: done).reverse
    | some '|' =>
      advance
      branches fuel (branch :: done) []
    | some '(' =>
      let verbose := (← get).verbose
      match ← groupOpen with
      | .flags change =>
        setVerbose (change.apply .verbose verbose)
        branches fuel done (.flags change :: parts)
      | .group change =>
        setVerbose (change.apply .verbose verbose)
        let inner ← branches fuel [] []
        expect ')'
        setVerbose verbose
        branches fuel done (.group change inner :: parts)
    | some '[' => branches fuel done ((← bracketClass) :: parts)
    | some '?' => do
      let (part, parts) ← popPart parts
      advance
      skipLazy
      branches fuel done (.repeated 0 (some 1) part :: parts)
    | some '*' => do
      let (part, parts) ← popPart parts
      advance
      skipLazy
      branches fuel done (.repeated 0 none part :: parts)
    | some '+' => do
      let (part, parts) ← popPart parts
      advance
      skipLazy
      branches fuel done (.repeated 1 none part :: parts)
    | some '\x7b' => do
      let (part, parts) ← popPart parts
      let (min, max) ← counts
      branches fuel done (.repeated min max part :: parts)
    | some _ => branches fuel done ((← primitive) :: parts)

end ReadPattern

def Ast.ofPattern? (pattern : String) : Option Ast := do
  let chars := pattern.toList
  let (ast, state) ← (ReadPattern.branches (chars.length + 1) [] []).run { rest := chars }
  if state.rest.isEmpty && ast.depth ≤ nestLimit then some ast else none

end PredictiveParsing.Regex
