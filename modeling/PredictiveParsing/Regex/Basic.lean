import PredictiveParsing.Unicode.CharSet

/-!
# Regular expressions

Regular expressions over characters, with assertions. An assertion matches the empty text
where what stands around it allows it: the character before, or the beginning of the
text, and the character behind, or its end.

`Matches r before text after` is the meaning: the expression `r` matches all of `text`
when `before` and `after` stand around it.
-/

namespace PredictiveParsing.Regex

inductive Look where
  | textStart
  | textEnd
  /-- The beginning of a line; with `crlf`, a carriage return also ends one. -/
  | lineStart (crlf : Bool)
  | lineEnd (crlf : Bool)
  | wordBoundary
  | notWordBoundary
  | wordStart
  | wordEnd
  | wordStartHalf
  | wordEndHalf
  /-- A word boundary of any kind that counts letters of all scripts. -/
  | unicodeWord
deriving DecidableEq, Hashable, Repr

def isWordChar (c : Char) : Bool := c.isAlphanum || c == '_'

/-- Whether an assertion holds between two characters; none stands for an end of the text. Words
of all scripts are not supported, and their boundaries nowhere. -/
def Look.holds (before after : Option Char) : Look → Bool
  | .textStart => before.isNone
  | .textEnd => after.isNone
  | .lineStart false => before.isNone || before == some '\n'
  | .lineEnd false => after.isNone || after == some '\n'
  | .lineStart true =>
    before.isNone || before == some '\n' || (before == some '\r' && after != some '\n')
  | .lineEnd true =>
    after.isNone || after == some '\r' || (after == some '\n' && before != some '\r')
  | .wordBoundary => before.any isWordChar != after.any isWordChar
  | .notWordBoundary => before.any isWordChar == after.any isWordChar
  | .wordStart => !before.any isWordChar && after.any isWordChar
  | .wordEnd => before.any isWordChar && !after.any isWordChar
  | .wordStartHalf => !before.any isWordChar
  | .wordEndHalf => !after.any isWordChar
  | .unicodeWord => false

end Regex

inductive Regex where
  | empty
  | chars (set : CharSet)
  | look (l : Regex.Look)
  | cat (r s : Regex)
  | alt (r s : Regex)
  /-- `min` times, and then as often as `more` allows: any number of times if it is `none`. -/
  | times (r : Regex) (min : Nat) (more : Option Nat)
deriving DecidableEq, Hashable, Inhabited

namespace Regex

def lastOr (before : Option Char) (text : List Char) : Option Char :=
  text.getLast?.or before

def firstOr (text : List Char) (after : Option Char) : Option Char :=
  text.head?.or after

/-- The counts that are left when one repetition has been made, unless none may be. -/
def oneFewer? : (min : Nat) → (more : Option Nat) → Option (Nat × Option Nat)
  | min + 1, more => some (min, more)
  | 0, some (more + 1) => some (0, some more)
  | 0, some 0 => none
  | 0, none => some (0, none)

/-- The expression matches all of a text, with given characters around it. -/
inductive Matches : Regex → Option Char → List Char → Option Char → Prop where
  | empty {before after : Option Char} : Matches .empty before [] after
  | chars {set : CharSet} {before after : Option Char} {c : Char} (h : set.contains c) :
      Matches (.chars set) before [c] after
  | look {l : Look} {before after : Option Char} (h : l.holds before after) :
      Matches (.look l) before [] after
  | cat {r s : Regex} {before after : Option Char} {t u : List Char}
      (hr : Matches r before t (firstOr u after)) (hs : Matches s (lastOr before t) u after) :
      Matches (.cat r s) before (t ++ u) after
  | altLeft {r s : Regex} {before after : Option Char} {t : List Char}
      (h : Matches r before t after) : Matches (.alt r s) before t after
  | altRight {r s : Regex} {before after : Option Char} {t : List Char}
      (h : Matches s before t after) : Matches (.alt r s) before t after
  | timesNil {r : Regex} {more : Option Nat} {before after : Option Char} :
      Matches (.times r 0 more) before [] after
  | timesCons {r : Regex} {min min' : Nat} {more more' : Option Nat} {before after : Option Char}
      {t u : List Char} (h : oneFewer? min more = some (min', more'))
      (hr : Matches r before t (firstOr u after))
      (hs : Matches (.times r min' more') (lastOr before t) u after) :
      Matches (.times r min more) before (t ++ u) after

/-! ### Building -/

def seq : List Regex → Regex
  | [] => .empty
  | [r] => r
  | r :: rs => .cat r (seq rs)

def any : List Regex → Regex
  | [] => .chars .empty
  | [r] => r
  | r :: rs => .alt r (any rs)

/-- `min` times, and then as often as `more` allows. No time at all is the empty expression, and
once is the expression itself. -/
def repeated (r : Regex) (min : Nat) (more : Option Nat) : Regex :=
  match min, more with
  | 0, some 0 => .empty
  | 1, some 0 => r
  | _, _ => .times r min more

def between (r : Regex) (min : Nat) (max : Option Nat) : Regex :=
  r.repeated min (max.map (· - min))

/-- Whether a word boundary that counts letters of all scripts occurs. -/
def hasUnicodeWord : Regex → Bool
  | .look l => l == .unicodeWord
  | .cat r s => r.hasUnicodeWord || s.hasUnicodeWord
  | .alt r s => r.hasUnicodeWord || s.hasUnicodeWord
  | .times r _ _ => r.hasUnicodeWord
  | _ => false

end Regex

end PredictiveParsing
