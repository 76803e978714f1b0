import PredictiveParsing.Diagnostic.Basic

/-!
# Reports

A report shows a diagnostic with the lines around it and points at the bytes it is about. It
takes two passes over the text. `Excerpt.around` looks for the bytes to show: the line of
the span and a number of lines before and behind it. `Line.ofExcerpt` then cuts these
into lines.

In a report a line feed ends a line, with a carriage return before it if there is one. A
carriage return by itself does not, but it does when lines before and behind are counted.
-/

namespace PredictiveParsing.Diagnostic

/-! ### The bytes to show -/

/-- A range of bytes to show, with the numbers of the line and the column where it begins, from
zero. Columns count bytes. -/
structure Excerpt where
  start : Nat
  stop : Nat
  line : Nat
  column : Nat
deriving DecidableEq, Repr

structure Search where
  offset : Nat := 0
  startLine : Nat := 0
  startColumn : Nat := 0
  /-- Where the line begins that is being read. -/
  lineStart : Nat := 0
  /-- Where the last lines before the span begin, first one first. -/
  before : List Nat := []
  /-- Whether the span has been passed. -/
  passed : Bool := false
  /-- Whether the line of the span has ended. -/
  lineEnded : Bool := false
  /-- The number of lines behind that of the span. -/
  linesBehind : Nat := 0

namespace Search

/-- The state after a step, and whether enough lines have been read. -/
inductive Progress where
  | more (s : Search)
  | done (s : Search)

def next (s : Search) : Search := { s with offset := s.offset + 1 }

/-- The end of a step: the span has been passed at its last byte. -/
def settle (span : Span) (context : Nat) (s : Search) : Progress :=
  if span.offset + span.length - 1 ≤ s.offset then
    let s := { s with passed := true }
    if context ≤ s.linesBehind then .done s.next else .more s.next
  else .more s.next

/-- The end of a line in front of the span. Of the lines there only the last ones are kept. -/
def keepLine (context : Nat) (s : Search) : Search :=
  let before := s.before ++ [s.lineStart]
  if context < before.length then
    { s with startColumn := 0, startLine := s.startLine + 1, before := before.drop 1 }
  else { s with startColumn := 0, before }

def countLine (s : Search) : Search :=
  if s.lineEnded then { s with startColumn := 0, linesBehind := s.linesBehind + 1 }
  else { s with startColumn := 0, lineEnded := true }

def endLine (span : Span) (context : Nat) (s : Search) : Progress :=
  let goOn (s : Search) : Progress := settle span context { s with lineStart := s.offset + 1 }
  if s.offset < span.offset then goOn (s.keepLine context)
  else if s.passed then
    let s := s.countLine
    if context ≤ s.linesBehind then .done s.next else goOn s
  else goOn s

def pass (span : Span) (context : Nat) (s : Search) : Progress :=
  settle span context
    (if s.offset < span.offset then { s with startColumn := s.startColumn + 1 } else s)

def run (span : Span) (context : Nat) (s : Search) : List UInt8 → Search
  | [] => s
  | 13 :: 10 :: rest =>
    match s.next.endLine span context with
    | .more s => s.run span context rest
    | .done s => s
  | b :: rest =>
    match if b = 13 ∨ b = 10 then s.endLine span context else s.pass span context with
    | .more s => s.run span context rest
    | .done s => s

end Search

/-- The bytes to show of a text, with `context` lines before and behind the span. -/
def Excerpt.around (text : List UInt8) (span : Span) (context : Nat) : Excerpt :=
  let s := Search.run span context {} text
  { start := s.before.head?.getD (if context = 0 then span.offset else 0)
    stop := s.offset
    line := s.startLine
    column := if context = 0 then s.startColumn else 0 }

/-! ### Lines -/

/-- A line to show: its number from one, its bytes, and its text without the end of the line. -/
structure Line where
  number : Nat
  span : Span
  text : List Char
deriving Repr

namespace Line

structure Cutting where
  /-- The number of lines that have ended, and the characters in this one. -/
  number : Nat
  column : Nat
  offset : Nat
  lineStart : Nat
  /-- The characters of this line, last first. -/
  text : List Char := []

namespace Cutting

def line (s : Cutting) : Line := ⟨s.number, ⟨s.lineStart, s.offset - s.lineStart⟩, s.text.reverse⟩

def push (s : Cutting) (c : Char) : Cutting :=
  { s with column := s.column + 1, offset := s.offset + c.utf8Size, text := c :: s.text }

def endLine (s : Cutting) (bytes : Nat) : Cutting :=
  { s with number := s.number + 1, column := 0, offset := s.offset + bytes }

/-- The end of the text behind a character that does not end a line. A carriage return does not
count the line that it is in. -/
def endText (s : Cutting) (last : Char) : Cutting :=
  if last = '\r' then s else { s with number := s.number + 1 }

def restart (s : Cutting) : Cutting := { s with lineStart := s.offset, text := [] }

def run (s : Cutting) : List Char → List Line
  | [] => []
  | '\r' :: '\n' :: rest =>
    let s := s.endLine 2
    s.line :: run s.restart rest
  | '\n' :: rest =>
    let s := s.endLine 1
    s.line :: run s.restart rest
  | [c] => [((s.push c).endText c).line]
  | c :: rest => run (s.push c) rest

end Cutting

def charsBetween (start stop : Nat) (offset : Nat) : List Char → List Char
  | [] => []
  | c :: cs =>
    let rest := charsBetween start stop (offset + c.utf8Size) cs
    if start ≤ offset ∧ offset < stop then c :: rest else rest

def ofExcerpt (text : String) (e : Excerpt) : List Line :=
  Cutting.run { number := e.line, column := e.column, offset := e.start, lineStart := e.start }
    (charsBetween e.start e.stop 0 text.toList)

def tabWidth : Nat := 4

/-- The columns that characters take, from a column on. A tab goes to the next stop, and a
carriage return takes none. -/
def width (column : Nat) : List Char → Nat
  | [] => column
  | '\t' :: cs => width ((column / tabWidth + 1) * tabWidth) cs
  | '\r' :: cs => width column cs
  | _ :: cs => width (column + 1) cs

def charsBefore : (bytes : Nat) → List Char → List Char
  | _, [] => []
  | bytes, c :: cs => if c.utf8Size ≤ bytes then c :: charsBefore (bytes - c.utf8Size) cs else []

/-- The column at a byte of the text that the line is from. What lies behind the text of the line
is one column behind it. -/
def columnAt (l : Line) (offset : Nat) : Nat :=
  let bytes := offset - l.span.offset
  let textBytes := (String.ofList l.text).utf8ByteSize
  if textBytes < bytes then width 0 l.text + 1 else width 0 (charsBefore bytes l.text)

def shown (column : Nat) : List Char → List Char
  | [] => []
  | '\t' :: cs =>
    let stop := (column / tabWidth + 1) * tabWidth
    List.replicate (stop - column) ' ' ++ shown stop cs
  | '\r' :: cs => '\r' :: shown column cs
  | c :: cs => c :: shown (column + 1) cs

def holds (l : Line) (span : Span) : Bool :=
  l.span.offset ≤ span.offset && span.offset < l.span.offset + l.span.length

end Line

/-! ### The report -/

def blanks (n : Nat) : String := String.ofList (List.replicate n ' ')

def marks (n : Nat) : String := String.ofList (List.replicate n '^')

/-- The lines under a line that point at the span, without their margin: the marks, and the label
below their middle. -/
def pointer (l : Line) (span : Span) (label : String) : String × String :=
  let first := l.columnAt span.offset
  let last :=
    if span.length = 0 then first + 1
    else max (l.columnAt (span.offset + span.length)) (first + 1)
  let middle := (first + last) / 2
  let tip := if span.length = 0 then "^" else "|"
  (blanks first ++ marks (middle - first) ++ tip ++ marks (last - middle - 1),
    blanks middle ++ "`-- " ++ label)

/-- A line of the report, and the pointer below it if the span begins in the line. `margin` is the
width of the numbers. -/
def reportLine (margin : Nat) (span : Span) (label : String) (l : Line) : String :=
  let number := toString l.number
  let line := " " ++ number ++ blanks (margin - number.length) ++ " | " ++
    String.ofList (Line.shown 0 l.text) ++ "\n"
  if l.holds span then
    let (under, below) := pointer l span label
    let gutter := " " ++ blanks margin ++ " : "
    line ++ gutter ++ under ++ "\n" ++ gutter ++ below ++ "\n"
  else line

def excerpt (d : Diagnostic) (context : Nat) : Excerpt :=
  Excerpt.around (d.text.toList.flatMap String.utf8EncodeChar) d.span context

/-- The line that the diagnostic is about, with the one before and the one behind it. -/
def lines (d : Diagnostic) : List Line := Line.ofExcerpt d.text (d.excerpt 1)

def report (d : Diagnostic) : String :=
  let place := d.excerpt 0
  let margin := ((d.lines.getLast?.map fun l => (toString l.number).length).getD 1)
  let body := String.join (d.lines.map (reportLine margin d.span d.label))
  code ++ "\n\n  x " ++ d.describe ++ "\n" ++
    blanks (margin + 2) ++ ",-[input:" ++ toString (place.line + 1) ++ ":" ++
    toString (place.column + 1) ++ "]\n" ++ body ++
    blanks (margin + 2) ++ "`----\n"

end PredictiveParsing.Diagnostic
