/-!
# Locations in a text

Failures say how many characters stand before them. People look for a line and a
column, tools for a range of bytes. Lines end at line feeds, and both numbers
count from one. A position beyond the text counts as its end.
-/

namespace PredictiveParsing

/-- A line and a column, in characters, from one. -/
structure Location where
  line : Nat
  column : Nat
deriving BEq, DecidableEq, Repr

structure Span where
  offset : Nat
  length : Nat
deriving BEq, DecidableEq, Repr

namespace Location

def start : Location := ⟨1, 1⟩

def after (l : Location) (c : Char) : Location :=
  if c = '\n' then ⟨l.line + 1, 1⟩ else ⟨l.line, l.column + 1⟩

/-- The location of a character some characters on, and its bytes; at the end of the text there
are none. -/
def locate (l : Location) (byte : Nat) : Nat → List Char → Location × Span
  | _, [] => (l, ⟨byte, 0⟩)
  | 0, c :: _ => (l, ⟨byte, c.utf8Size⟩)
  | n + 1, c :: cs => (l.after c).locate (byte + c.utf8Size) n cs

/-- The location of a position in a text, and the bytes of the character there. -/
def find (position : Nat) (text : String) : Location × Span :=
  start.locate 0 position text.toList

def of (position : Nat) (text : String) : Location := (find position text).1

def describe (l : Location) : String := s!"{l.line}:{l.column}"

end Location

end PredictiveParsing
