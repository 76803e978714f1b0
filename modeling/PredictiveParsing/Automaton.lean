import PredictiveParsing.Parser

/-!
# Patterns and automata

A pattern is compiled into an automaton that goes from state to state by the bytes of a text. The
automaton tells a match late: the state behind a byte says whether the text in front of that byte
is a match, and where the input ends a transition of its own takes the place of the byte. From a
dead state nothing matches any more, and in others the automaton may give up.

How patterns are compiled is left open. Whatever the automaton, `Automaton.parser` feeds it
the input character by character, and reads the longest text that it tells to be a match.
-/

namespace PredictiveParsing

/-- An automaton over bytes. -/
structure Automaton where
  State : Type
  /-- Where a match at the beginning of a text starts, or why none can. -/
  start : Except String State
  next : State → UInt8 → State
  nextAtEnd : State → State
  /-- Whether the text in front of the last byte, or of the end, is a match. -/
  isMatch : State → Bool
  isDead : State → Bool
  isQuit : State → Bool

inductive PatternError where
  | invalid (pattern fault : String)
  /-- The automaton of the pattern has no state to start in. -/
  | cannotStart (pattern fault : String)
deriving BEq, DecidableEq, Repr

namespace PatternError

def pattern : PatternError → String
  | .invalid pattern _ => pattern
  | .cannotStart pattern _ => pattern

def describe : PatternError → String
  | .invalid pattern fault => "invalid regular expression /" ++ pattern ++ "/: " ++ fault
  | .cannotStart pattern fault =>
    "regular expression /" ++ pattern ++ "/ cannot start a match: " ++ fault

end PatternError

namespace Automaton

/-- Feeds the bytes of a character in turn. The automaton may die or give up inside it. -/
def feedBytes (a : Automaton) : a.State → List UInt8 → Recognizer.Step a.State
  | s, [] => .live s
  | s, b :: bytes =>
    let s := a.next s b
    if a.isDead s then .dead
    else if a.isQuit s then .quit
    else a.feedBytes s bytes

def feed (a : Automaton) (s : a.State) (c : Char) : Recognizer.Step a.State :=
  a.feedBytes s (String.utf8EncodeChar c)

/-- Whether what was fed is a match in front of a character. Matches are told one byte late, so the
state behind its first byte says so. -/
def matchesBefore (a : Automaton) (s : a.State) (c : Char) : Bool :=
  match String.utf8EncodeChar c with
  | [] => false
  | b :: _ => a.isMatch (a.next s b)

/-- The automaton as a recognizer of characters. Texts are as long as their bytes. -/
def recognizer (a : Automaton) (start : a.State) (name : String) : Recognizer Char where
  name
  State := a.State
  start
  matchesBefore := a.matchesBefore
  step := a.feed
  matchesAtEnd s := a.isMatch (a.nextAtEnd s)
  width := Char.utf8Size
  width_pos := Char.utf8Size_pos

def matchParser {ρ : Nat → Type} (a : Automaton) (start : a.State) (name : String) :
    Parser Char ρ String :=
  (Parser.longest (a.recognizer start name)).map String.ofList

/-- Reads the longest match of a pattern, which is anchored where it begins. -/
def parser {ρ : Nat → Type} (compile : String → Except String Automaton) (pattern : String) :
    Except PatternError (Parser Char ρ String) :=
  match compile pattern with
  | .error fault => .error (.invalid pattern fault)
  | .ok a =>
    match a.start with
    | .error fault => .error (.cannotStart pattern fault)
    | .ok start => .ok (a.matchParser start ("/" ++ pattern ++ "/"))

end Automaton

end PredictiveParsing
