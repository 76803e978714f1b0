/-!
# Edits of texts

Small changes to a text. A suite of trials that passes whatever is done to its texts
checks nothing, so `Conformance` offers its texts with an edit.
-/

namespace PredictiveParsing.Text

inductive Edit where
  | keep
  /-- Puts another text for every occurrence of one. -/
  | replace (old new : String)
  | append (s : String)
  | prepend (s : String)
  /-- Keeps the first characters only. -/
  | truncate (n : Nat)
  /-- Puts another text for this one and leaves others alone. -/
  | exchange (text instead : String)
deriving BEq, DecidableEq

/-- Puts `new` for the occurrences of a word, from the left and without overlap. The next `skip`
characters belong to the occurrence replaced last, and `out` is the text so far, last
character first. -/
def replaceFrom (word new : List Char) : (skip : Nat) → (out : List Char) → List Char → List Char
  | _, out, [] => out.reverse
  | skip + 1, out, _ :: rest => replaceFrom word new skip out rest
  | 0, out, c :: rest =>
    if word.isPrefixOf (c :: rest) then
      replaceFrom word new (word.length - 1) (new.reverse ++ out) rest
    else replaceFrom word new 0 (c :: out) rest

/-- Puts `new` for every occurrence of `old`. The empty text occurs in front of every character
and at the end. -/
def replaceAll (old new text : List Char) : List Char :=
  match old with
  | [] => text.flatMap (fun c => new ++ [c]) ++ new
  | word => replaceFrom word new 0 [] text

def Edit.apply : Edit → String → String
  | .keep, text => text
  | .replace old new, text =>
    String.ofList (replaceAll old.toList new.toList text.toList)
  | .append s, text => text ++ s
  | .prepend s, text => s ++ text
  | .truncate n, text => String.ofList (text.toList.take n)
  | .exchange one instead, text => if text = one then instead else text

end PredictiveParsing.Text
