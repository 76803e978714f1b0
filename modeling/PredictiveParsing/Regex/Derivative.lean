import PredictiveParsing.Automaton
import PredictiveParsing.Regex.Basic
import PredictiveParsing.Text.Utf8
import Std.Data.HashSet

/-!
# Matching by partial derivatives

The partial derivatives of an expression by a character are expressions for what may
follow that character in a match. An assertion in front of them is decided then, because
the characters on both sides of it are known. `State` holds what may still follow, and
the character before it.

The automaton of an expression reads a character byte by byte and goes on to its
derivatives when it is complete. The first byte is enough to decide an assertion in front
of the character, since assertions only tell characters of the basic alphabet apart. So a
match is told behind one byte, and where nothing can follow it the automaton dies behind
the next: a character of one byte is read once more behind a match, one of several is not.
-/

namespace PredictiveParsing.Regex

def nullable (before after : Option Char) : Regex → Bool
  | .empty => true
  | .chars _ => false
  | .look l => l.holds before after
  | .cat r s => r.nullable before after && s.nullable before after
  | .alt r s => r.nullable before after || s.nullable before after
  | .times r min _ => min == 0 || r.nullable before after

/-- One expression after another, the empty one left out and nested ones turned to the right. -/
def append : Regex → Regex → Regex
  | .empty, s => s
  | .cat r r', s => .cat r (r'.append s)
  | r, .empty => r
  | r, s => .cat r s

/-- The counts that are left when one repetition has read something. Where the expression also
matches the empty text, any of the repetitions before that one may have done so. -/
def leftToRepeat? (nullable : Bool) (min : Nat) (more : Option Nat) : Option (Nat × Option Nat) :=
  if nullable then oneFewer? 0 (more.map (min + ·)) else oneFewer? min more

def derivatives (before : Option Char) (c : Char) : Regex → List Regex
  | .empty => []
  | .chars set => if set.contains c then [.empty] else []
  | .look _ => []
  | .cat r s =>
    let inR := (r.derivatives before c).map (·.append s)
    if r.nullable before (some c) then inR ++ s.derivatives before c else inR
  | .alt r s => r.derivatives before c ++ s.derivatives before c
  | .times r min more =>
    match leftToRepeat? (r.nullable before (some c)) min more with
    | some (min, more) => (r.derivatives before c).map (·.append (r.repeated min more))
    | none => []

def isPassable : Regex → Bool
  | .empty => true
  | .chars _ => false
  | .look _ => false
  | .cat r s => r.isPassable && s.isPassable
  | .alt r s => r.isPassable || s.isPassable
  | .times r min _ => min == 0 || r.isPassable

/-- Whether the expression waits for something: a character that can be read, or one that decides
an assertion. -/
def isWaiting : Regex → Bool
  | .empty => false
  | .chars set => !set.isEmpty
  | .look _ => true
  | .cat r s => r.isWaiting || (r.isPassable && s.isWaiting)
  | .alt r s => r.isWaiting || s.isWaiting
  | .times r _ _ => r.isWaiting

/-- Whether a match can still come of the expression. An empty class is a dead end. -/
def isAlive (r : Regex) : Bool := r.isPassable || r.isWaiting

def distinct (rs : List Regex) : List Regex := (Std.HashSet.ofList rs).toList

theorem mem_distinct {r : Regex} {rs : List Regex} : r ∈ distinct rs ↔ r ∈ rs := by
  simp [distinct]

/-- What a first byte says of the character it begins, as far as assertions ask for it: a character
of the basic alphabet, or one beyond. -/
def begunBy (b : UInt8) : Char := if b < 0x80 then Char.ofNat b.toNat else '\u0080'

/-- The expressions for what may follow the characters read so far, the last of them, and the bytes
of one that is not complete. -/
structure State where
  residuals : List Regex
  before : Option Char
  pending : List UInt8
  /-- Whether the text in front of the last byte is a match. -/
  isMatch : Bool

namespace State

/-- The state before anything is read. Wherever this is, it counts as the beginning of a text. -/
def start (r : Regex) : State := ⟨[r], none, [], false⟩

def accepts (s : State) (after : Option Char) : Bool :=
  s.residuals.any fun r => r.nullable s.before after

def behind (s : State) (c : Char) : List Regex :=
  distinct ((s.residuals.flatMap fun r => r.derivatives s.before c).filter isAlive)

/-- The state after a byte. Only the first byte of a character tells whether the text in front of it
is a match. -/
def next (s : State) (b : UInt8) : State :=
  let isMatch := s.pending.isEmpty && s.accepts (some (begunBy b))
  let bytes := s.pending ++ [b]
  match Text.Utf8.readFront bytes with
  | .char c _ => ⟨s.behind c, some c, [], isMatch⟩
  | .incomplete => { s with pending := bytes, isMatch }
  | .malformed => ⟨[], s.before, [], isMatch⟩

def nextAtEnd (s : State) : State := ⟨[], s.before, [], s.accepts none⟩

/-- Whether nothing can match any more. A match that was told just now is not dead, though nothing
may follow it. -/
def isDead (s : State) : Bool := s.residuals.isEmpty && !s.isMatch

end State

def automaton (r : Regex) : Automaton where
  State := State
  start := .ok (.start r)
  next := State.next
  nextAtEnd := State.nextAtEnd
  isMatch := State.isMatch
  isDead := State.isDead
  isQuit _ := false

end PredictiveParsing.Regex
